import BrowserRemote.File.Tree
import BrowserRemote.Text.Utf8

/-!
# Atom/Packaged — the atoms the library brings along

An atom is a function, in the language browsers run, for something the W3C dialect has no request
for.  Two come with the library: one reads an attribute of an element, the other tells whether an
element is displayed.
-/

namespace BrowserRemote.Atom

/-- The name of the atom that reads an attribute. -/
def getAttribute : String := "getAttribute.js"

/-- The name of the atom that tells whether an element is displayed. -/
def isDisplayed : String := "isDisplayed.js"

/-- Lines, each ended by a line feed. -/
def ofLines (lines : List String) : String := String.join (lines.map fun line => line ++ "\n")

/-- The atom that reads an attribute. -/
def getAttributeSource : String := ofLines [
  "function(element, attribute) \x7b",
  "  var BOOLEAN_ATTRIBUTES = [",
  "    'allowfullscreen', 'allowpaymentrequest', 'allowusermedia', 'async',",
  "    'autofocus', 'autoplay', 'checked', 'compact', 'complete', 'controls',",
  "    'declare', 'default', 'defaultchecked', 'defaultselected', 'defer',",
  "    'disabled', 'ended', 'formnovalidate', 'hidden', 'indeterminate',",
  "    'iscontenteditable', 'ismap', 'itemscope', 'loop', 'multiple', 'muted',",
  "    'nohref', 'nomodule', 'noresize', 'noshade', 'novalidate', 'nowrap',",
  "    'open', 'paused', 'playsinline', 'pubdate', 'readonly', 'required',",
  "    'reversed', 'scoped', 'seamless', 'seeking', 'selected', 'truespeed',",
  "    'typemustmatch', 'willvalidate'",
  "  ];",
  "  var name = String(attribute).toLowerCase();",
  "",
  "  if (name === 'style') \x7b",
  "    var style = element.style;",
  "    return style ? style.cssText : null;",
  "  \x7d",
  "",
  "  if ((name === 'selected' || name === 'checked') &&",
  "      element.tagName && (element.tagName.toUpperCase() === 'OPTION' ||",
  "                          element.tagName.toUpperCase() === 'INPUT')) \x7b",
  "    var state = name === 'selected' && element.tagName.toUpperCase() ===",
  "        'OPTION' ? element.selected : element.checked;",
  "    return state ? 'true' : null;",
  "  \x7d",
  "",
  "  if ((element.tagName.toUpperCase() === 'IMG' && name === 'src') ||",
  "      (element.tagName.toUpperCase() === 'A' && name === 'href')) \x7b",
  "    var raw = element.getAttribute(name);",
  "    if (raw === null) \x7b",
  "      return null;",
  "    \x7d",
  "    var url = element[name];",
  "    return url === undefined || url === null ? raw : String(url);",
  "  \x7d",
  "",
  "  if (BOOLEAN_ATTRIBUTES.indexOf(name) !== -1) \x7b",
  "    if (element.hasAttribute(name)) \x7b",
  "      return 'true';",
  "    \x7d",
  "    var prop = element[name];",
  "    return prop === true ? 'true' : null;",
  "  \x7d",
  "",
  "  var value = null;",
  "  var property = name === 'class' ? 'className' : attribute;",
  "  if (property in element) \x7b",
  "    value = element[property];",
  "  \x7d",
  "",
  "  if (value === null || value === undefined ||",
  "      (typeof value === 'object' && !(value instanceof Array))) \x7b",
  "    value = element.getAttribute(attribute);",
  "  \x7d",
  "",
  "  return value === null || value === undefined ? null : String(value);",
  "\x7d"]

/-- The atom that tells whether an element is displayed. -/
def isDisplayedSource : String := ofLines [
  "function(element) \x7b",
  "  function style(el, property) \x7b",
  "    var view = el.ownerDocument.defaultView;",
  "    return view.getComputedStyle(el, null).getPropertyValue(property);",
  "  \x7d",
  "",
  "  function parentElement(el) \x7b",
  "    var parent = el.parentNode;",
  "    while (parent && parent.nodeType !== 1 && parent.nodeType !== 9 &&",
  "           parent.nodeType !== 11) \x7b",
  "      parent = parent.parentNode;",
  "    \x7d",
  "    if (parent && parent.nodeType === 11) \x7b",
  "      return parent.host || null;",
  "    \x7d",
  "    return parent && parent.nodeType === 1 ? parent : null;",
  "  \x7d",
  "",
  "  function hasPositiveSize(el) \x7b",
  "    var rect = el.getBoundingClientRect();",
  "    if (rect.height > 0 && rect.width > 0) \x7b",
  "      return true;",
  "    \x7d",
  "    if (el.tagName.toUpperCase() === 'PATH' &&",
  "        (rect.height > 0 || rect.width > 0)) \x7b",
  "      return true;",
  "    \x7d",
  "    var children = el.childNodes;",
  "    for (var i = 0; i < children.length; ++i) \x7b",
  "      var child = children[i];",
  "      if (child.nodeType === 3 && child.textContent.trim() !== '') \x7b",
  "        return true;",
  "      \x7d",
  "      if (child.nodeType === 1 && isShown(child, true)) \x7b",
  "        return true;",
  "      \x7d",
  "    \x7d",
  "    return false;",
  "  \x7d",
  "",
  "  function isShown(el, ignoreSize) \x7b",
  "    var tag = el.tagName.toUpperCase();",
  "    if (tag === 'BODY') \x7b",
  "      return true;",
  "    \x7d",
  "    if (tag === 'OPTION' || tag === 'OPTGROUP') \x7b",
  "      var select = el;",
  "      while (select && select.tagName.toUpperCase() !== 'SELECT') \x7b",
  "        select = parentElement(select);",
  "      \x7d",
  "      return select ? isShown(select, false) : false;",
  "    \x7d",
  "    if (tag === 'INPUT' && String(el.type).toLowerCase() === 'hidden') \x7b",
  "      return false;",
  "    \x7d",
  "    if (tag === 'NOSCRIPT') \x7b",
  "      return false;",
  "    \x7d",
  "",
  "    for (var e = el; e; e = parentElement(e)) \x7b",
  "      if (style(e, 'display') === 'none') \x7b",
  "        return false;",
  "      \x7d",
  "    \x7d",
  "",
  "    if (style(el, 'visibility') === 'hidden' ||",
  "        style(el, 'visibility') === 'collapse') \x7b",
  "      return false;",
  "    \x7d",
  "",
  "    for (var o = el; o; o = parentElement(o)) \x7b",
  "      if (parseFloat(style(o, 'opacity')) === 0) \x7b",
  "        return false;",
  "      \x7d",
  "    \x7d",
  "",
  "    return ignoreSize || hasPositiveSize(el);",
  "  \x7d",
  "",
  "  return isShown(element, false);",
  "\x7d"]

/-- The name of the package the atoms come in. -/
def packageName : String := "wirecodec"

/-- The directory of the package the atoms are in. -/
def packageDirectory : String := "js"

/-- The files of the package. -/
def packageFiles : FileEntries := [
  ([packageName, FileTree.declaration], .bytes []),
  ([packageName, packageDirectory, getAttribute],
    .bytes (Text.Utf8.encode getAttributeSource.toList)),
  ([packageName, packageDirectory, isDisplayed],
    .bytes (Text.Utf8.encode isDisplayedSource.toList))]

end BrowserRemote.Atom
