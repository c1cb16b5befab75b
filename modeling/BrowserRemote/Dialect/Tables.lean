import BrowserRemote.CommandTable.Draft
import BrowserRemote.Dialect.Basic

/-!
# Dialect/Tables — the command tables of the two dialects

Both dialects start from the commands that are requested alike in both.  The W3C dialect then
leaves what it lacks to scripts, by aliases of the command that runs one; the JSON wire dialect
has a request of its own for everything.
-/

namespace BrowserRemote

namespace Dialect

/-- The commands requested alike in both dialects. -/
def commonCalls : List Draft.Call := [
  .defines .status (.get "/status"),
  .defines .newSession (.post "/session"),
  .defines .quit (.delete "/session/:sessionId"),
  .defines .get (.post "/session/:sessionId/url"),
  .defines .getCurrentUrl (.get "/session/:sessionId/url"),
  .defines .goBack (.post "/session/:sessionId/back"),
  .defines .goForward (.post "/session/:sessionId/forward"),
  .defines .refresh (.post "/session/:sessionId/refresh"),
  .defines .getTitle (.get "/session/:sessionId/title"),
  .defines .setTimeouts (.post "/session/:sessionId/timeouts"),
  .defines .screenshot (.get "/session/:sessionId/screenshot"),
  .defines .close (.delete "/session/:sessionId/window"),
  .defines .switchToWindow (.post "/session/:sessionId/window"),
  .defines .switchToFrame (.post "/session/:sessionId/frame"),
  .defines .switchToParentFrame (.post "/session/:sessionId/frame/parent"),
  .defines .findElement (.post "/session/:sessionId/element"),
  .defines .findElements (.post "/session/:sessionId/elements"),
  .defines .findChildElement (.post "/session/:sessionId/element/:id/element"),
  .defines .findChildElements (.post "/session/:sessionId/element/:id/elements"),
  .defines .clickElement (.post "/session/:sessionId/element/:id/click"),
  .defines .clearElement (.post "/session/:sessionId/element/:id/clear"),
  .defines .sendKeysToElement (.post "/session/:sessionId/element/:id/value"),
  .defines .getElementText (.get "/session/:sessionId/element/:id/text"),
  .defines .getElementTagName (.get "/session/:sessionId/element/:id/name"),
  .defines .isElementSelected (.get "/session/:sessionId/element/:id/selected"),
  .defines .isElementEnabled (.get "/session/:sessionId/element/:id/enabled"),
  .defines .getElementValueOfCssProperty (.get "/session/:sessionId/element/:id/css/:propertyName"),
  .defines .getElementRect (.get "/session/:sessionId/element/:id/rect"),
  .defines .getAllCookies (.get "/session/:sessionId/cookie"),
  .defines .addCookie (.post "/session/:sessionId/cookie"),
  .defines .deleteAllCookies (.delete "/session/:sessionId/cookie"),
  .defines .deleteCookie (.delete "/session/:sessionId/cookie/:name")]

/-- What the W3C dialect adds. -/
def w3cCalls : List Draft.Call := [
  .defines .executeScript (.post "/session/:sessionId/execute/sync"),
  .defines .executeAsyncScript (.post "/session/:sessionId/execute/async"),
  .aliases .getElementAttribute .executeScript,
  .aliases .getElementLocation .getElementRect,
  .aliases .getElementLocationOnceScrolledIntoView .executeScript,
  .aliases .getElementSize .getElementRect,
  .aliases .isElementDisplayed .executeScript,
  .aliases .submitElement .executeScript,
  .aliases .getPageSource .executeScript,
  .defines .maximizeCurrentWindow (.post "/session/:sessionId/window/maximize"),
  .aliases .getCurrentWindowPosition .executeScript,
  .aliases .setCurrentWindowPosition .executeScript,
  .defines .getCurrentWindowSize (.get "/session/:sessionId/window/size"),
  .defines .setCurrentWindowSize (.post "/session/:sessionId/window/size"),
  .defines .getCurrentWindowHandle (.get "/session/:sessionId/window"),
  .defines .getWindowHandles (.get "/session/:sessionId/window/handles"),
  .defines .acceptAlert (.post "/session/:sessionId/alert/accept"),
  .defines .dismissAlert (.post "/session/:sessionId/alert/dismiss"),
  .defines .getAlertText (.get "/session/:sessionId/alert/text"),
  .defines .setAlertValue (.post "/session/:sessionId/alert/text")]

/-- What the JSON wire dialect adds. -/
def jsonWireCalls : List Draft.Call := [
  .defines .executeScript (.post "/session/:sessionId/execute"),
  .defines .executeAsyncScript (.post "/session/:sessionId/execute_async"),
  .defines .getPageSource (.get "/session/:sessionId/source"),
  .defines .getElementAttribute (.get "/session/:sessionId/element/:id/attribute/:name"),
  .defines .getElementLocation (.get "/session/:sessionId/element/:id/location"),
  .defines .getElementLocationOnceScrolledIntoView
    (.get "/session/:sessionId/element/:id/location_in_view"),
  .defines .getElementSize (.get "/session/:sessionId/element/:id/size"),
  .defines .isElementDisplayed (.get "/session/:sessionId/element/:id/displayed"),
  .defines .submitElement (.post "/session/:sessionId/element/:id/submit"),
  .defines .maximizeCurrentWindow (.post "/session/:sessionId/window/:windowHandle/maximize"),
  .defines .getCurrentWindowPosition (.get "/session/:sessionId/window/:windowHandle/position"),
  .defines .setCurrentWindowPosition (.post "/session/:sessionId/window/:windowHandle/position"),
  .defines .getCurrentWindowSize (.get "/session/:sessionId/window/:windowHandle/size"),
  .defines .setCurrentWindowSize (.post "/session/:sessionId/window/:windowHandle/size"),
  .defines .getCurrentWindowHandle (.get "/session/:sessionId/window_handle"),
  .defines .getWindowHandles (.get "/session/:sessionId/window_handles"),
  .defines .acceptAlert (.post "/session/:sessionId/accept_alert"),
  .defines .dismissAlert (.post "/session/:sessionId/dismiss_alert"),
  .defines .getAlertText (.get "/session/:sessionId/alert_text"),
  .defines .setAlertValue (.post "/session/:sessionId/alert_text")]

/-- What a dialect adds to the common commands. -/
def ownCalls : Dialect → List Draft.Call
  | .w3c => w3cCalls
  | .jsonWire => jsonWireCalls

/-- The draft of the commands common to both dialects. -/
def commonDraft : Traced Draft := Draft.empty.after (Draft.performAll commonCalls)

/-- **The draft of a dialect's commands.** -/
def draft (dialect : Dialect) : Traced Draft := Draft.empty.after do
  Draft.performAll commonCalls
  Draft.performAll dialect.ownCalls

/-- **The command table of a dialect.** -/
def table (dialect : Dialect) : Traced CommandTable := Draft.build <$> dialect.draft

end Dialect

end BrowserRemote
