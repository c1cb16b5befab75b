/-!
# Command — the commands a browser can be sent

Each command has a **name**, the word clients use for it, and a **constant**, the identifier it is
listed under.  A name designates at most one command (`ofName?_name`, `name_of_ofName?`).
-/

namespace BrowserRemote

/-- The commands a browser can be sent. -/
inductive Command where
  | status | newSession | quit | get | getCurrentUrl | goBack | goForward | refresh | getTitle
  | getPageSource | setTimeouts | screenshot | executeScript | executeAsyncScript | close
  | switchToWindow | switchToFrame | switchToParentFrame | maximizeCurrentWindow
  | getCurrentWindowPosition | setCurrentWindowPosition | getCurrentWindowSize
  | setCurrentWindowSize | getCurrentWindowHandle | getWindowHandles | findElement
  | findElements | findChildElement | findChildElements | clickElement | clearElement
  | sendKeysToElement | submitElement | getElementText | getElementTagName
  | getElementAttribute | getElementValueOfCssProperty | getElementLocation
  | getElementLocationOnceScrolledIntoView | getElementSize | getElementRect
  | isElementSelected | isElementEnabled | isElementDisplayed | getAllCookies | addCookie
  | deleteAllCookies | deleteCookie | acceptAlert | dismissAlert | getAlertText | setAlertValue
deriving DecidableEq, Repr

namespace Command

/-- All commands, in the order they are listed. -/
def all : List Command := [
  .status, .newSession, .quit, .get, .getCurrentUrl, .goBack, .goForward, .refresh, .getTitle,
  .getPageSource, .setTimeouts, .screenshot, .executeScript, .executeAsyncScript, .close,
  .switchToWindow, .switchToFrame, .switchToParentFrame, .maximizeCurrentWindow,
  .getCurrentWindowPosition, .setCurrentWindowPosition, .getCurrentWindowSize,
  .setCurrentWindowSize, .getCurrentWindowHandle, .getWindowHandles, .findElement,
  .findElements, .findChildElement, .findChildElements, .clickElement, .clearElement,
  .sendKeysToElement, .submitElement, .getElementText, .getElementTagName,
  .getElementAttribute, .getElementValueOfCssProperty, .getElementLocation,
  .getElementLocationOnceScrolledIntoView, .getElementSize, .getElementRect,
  .isElementSelected, .isElementEnabled, .isElementDisplayed, .getAllCookies, .addCookie,
  .deleteAllCookies, .deleteCookie, .acceptAlert, .dismissAlert, .getAlertText, .setAlertValue]

/-- The word clients use for a command. -/
def name : Command → String
  | .status => "status"
  | .newSession => "newSession"
  | .quit => "quit"
  | .get => "get"
  | .getCurrentUrl => "getCurrentUrl"
  | .goBack => "goBack"
  | .goForward => "goForward"
  | .refresh => "refresh"
  | .getTitle => "getTitle"
  | .getPageSource => "getPageSource"
  | .setTimeouts => "setTimeouts"
  | .screenshot => "screenshot"
  | .executeScript => "executeScript"
  | .executeAsyncScript => "executeAsyncScript"
  | .close => "close"
  | .switchToWindow => "switchToWindow"
  | .switchToFrame => "switchToFrame"
  | .switchToParentFrame => "switchToParentFrame"
  | .maximizeCurrentWindow => "maximizeWindow"
  | .getCurrentWindowPosition => "getWindowPosition"
  | .setCurrentWindowPosition => "setWindowPosition"
  | .getCurrentWindowSize => "getWindowSize"
  | .setCurrentWindowSize => "setWindowSize"
  | .getCurrentWindowHandle => "getCurrentWindowHandle"
  | .getWindowHandles => "getWindowHandles"
  | .findElement => "findElement"
  | .findElements => "findElements"
  | .findChildElement => "findChildElement"
  | .findChildElements => "findChildElements"
  | .clickElement => "clickElement"
  | .clearElement => "clearElement"
  | .sendKeysToElement => "sendKeysToElement"
  | .submitElement => "submitElement"
  | .getElementText => "getElementText"
  | .getElementTagName => "getElementTagName"
  | .getElementAttribute => "getElementAttribute"
  | .getElementValueOfCssProperty => "getElementValueOfCssProperty"
  | .getElementLocation => "getElementLocation"
  | .getElementLocationOnceScrolledIntoView => "getElementLocationOnceScrolledIntoView"
  | .getElementSize => "getElementSize"
  | .getElementRect => "getElementRect"
  | .isElementSelected => "isElementSelected"
  | .isElementEnabled => "isElementEnabled"
  | .isElementDisplayed => "isElementDisplayed"
  | .getAllCookies => "getCookies"
  | .addCookie => "addCookie"
  | .deleteAllCookies => "deleteAllCookies"
  | .deleteCookie => "deleteCookie"
  | .acceptAlert => "acceptAlert"
  | .dismissAlert => "dismissAlert"
  | .getAlertText => "getAlertText"
  | .setAlertValue => "setAlertValue"

/-- The identifier a command is listed under. -/
def constant : Command → String
  | .status => "STATUS"
  | .newSession => "NEW_SESSION"
  | .quit => "QUIT"
  | .get => "GET"
  | .getCurrentUrl => "GET_CURRENT_URL"
  | .goBack => "GO_BACK"
  | .goForward => "GO_FORWARD"
  | .refresh => "REFRESH"
  | .getTitle => "GET_TITLE"
  | .getPageSource => "GET_PAGE_SOURCE"
  | .setTimeouts => "SET_TIMEOUTS"
  | .screenshot => "SCREENSHOT"
  | .executeScript => "EXECUTE_SCRIPT"
  | .executeAsyncScript => "EXECUTE_ASYNC_SCRIPT"
  | .close => "CLOSE"
  | .switchToWindow => "SWITCH_TO_WINDOW"
  | .switchToFrame => "SWITCH_TO_FRAME"
  | .switchToParentFrame => "SWITCH_TO_PARENT_FRAME"
  | .maximizeCurrentWindow => "MAXIMIZE_CURRENT_WINDOW"
  | .getCurrentWindowPosition => "GET_CURRENT_WINDOW_POSITION"
  | .setCurrentWindowPosition => "SET_CURRENT_WINDOW_POSITION"
  | .getCurrentWindowSize => "GET_CURRENT_WINDOW_SIZE"
  | .setCurrentWindowSize => "SET_CURRENT_WINDOW_SIZE"
  | .getCurrentWindowHandle => "GET_CURRENT_WINDOW_HANDLE"
  | .getWindowHandles => "GET_WINDOW_HANDLES"
  | .findElement => "FIND_ELEMENT"
  | .findElements => "FIND_ELEMENTS"
  | .findChildElement => "FIND_CHILD_ELEMENT"
  | .findChildElements => "FIND_CHILD_ELEMENTS"
  | .clickElement => "CLICK_ELEMENT"
  | .clearElement => "CLEAR_ELEMENT"
  | .sendKeysToElement => "SEND_KEYS_TO_ELEMENT"
  | .submitElement => "SUBMIT_ELEMENT"
  | .getElementText => "GET_ELEMENT_TEXT"
  | .getElementTagName => "GET_ELEMENT_TAG_NAME"
  | .getElementAttribute => "GET_ELEMENT_ATTRIBUTE"
  | .getElementValueOfCssProperty => "GET_ELEMENT_VALUE_OF_CSS_PROPERTY"
  | .getElementLocation => "GET_ELEMENT_LOCATION"
  | .getElementLocationOnceScrolledIntoView => "GET_ELEMENT_LOCATION_ONCE_SCROLLED_INTO_VIEW"
  | .getElementSize => "GET_ELEMENT_SIZE"
  | .getElementRect => "GET_ELEMENT_RECT"
  | .isElementSelected => "IS_ELEMENT_SELECTED"
  | .isElementEnabled => "IS_ELEMENT_ENABLED"
  | .isElementDisplayed => "IS_ELEMENT_DISPLAYED"
  | .getAllCookies => "GET_ALL_COOKIES"
  | .addCookie => "ADD_COOKIE"
  | .deleteAllCookies => "DELETE_ALL_COOKIES"
  | .deleteCookie => "DELETE_COOKIE"
  | .acceptAlert => "ACCEPT_ALERT"
  | .dismissAlert => "DISMISS_ALERT"
  | .getAlertText => "GET_ALERT_TEXT"
  | .setAlertValue => "SET_ALERT_VALUE"

/-- The command a name designates. -/
def ofName? (s : String) : Option Command := all.find? fun c => c.name == s

/-- The command listed under an identifier. -/
def ofConstant? (s : String) : Option Command := all.find? fun c => c.constant == s

theorem mem_all (c : Command) : c ∈ all := by cases c <;> decide

/-- **What can be decided of every command can be decided of all**: they are listed. -/
instance (priority := low) (p : Command → Prop) [DecidablePred p] : Decidable (∀ c, p c) :=
  decidable_of_iff (∀ c ∈ all, p c) ⟨fun h c => h c c.mem_all, fun h c _ => h c⟩

theorem ofName?_name (c : Command) : ofName? c.name = some c := by
  cases c <;> decide

theorem name_of_ofName? {s : String} {c : Command} (h : ofName? s = some c) : c.name = s := by
  simpa using List.find?_some h

end Command

end BrowserRemote
