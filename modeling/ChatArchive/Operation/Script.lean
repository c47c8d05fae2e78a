import ChatArchive.Json.Printer
import ChatArchive.Text.Basic

/-!
# Scripts

A script that is injected into the page is a frame with two gaps: one for the configuration, which
is a line of JSON, and one for the body, which does the work.  The frame calls the service for the
body and publishes three globals: a counter, whether the work is done, and its result.
-/

namespace ChatArchive.Operation

open Json

namespace Script

/-- Stands where the configuration goes. -/
def configGap : String := "__CONFIG__"

/-- Stands where the body goes. -/
def bodyGap : String := "__BODY__"

/-- The frame. -/
def frame : String :=
  Text.join "\n"
    ["(() => \x7b",
     "  const CONFIG = __CONFIG__;",
     "  window.__chmProgress = 0;",
     "  window.__chmDone = false;",
     "  window.__chmResult = null;",
     "  const sleep = (ms) => new Promise((resolve) => setTimeout(resolve, ms));",
     "  const tick = (n = 1) => \x7b window.__chmProgress += n; \x7d;",
     "  class AuthExpired extends Error \x7b\x7d",
     "  const api = async (method, path) => \x7b",
     "    const response = await fetch(CONFIG.apiBase + '/organizations/' + CONFIG.orgId + path, \x7b",
     "      method,",
     "      credentials: 'include',",
     "      headers: \x7b 'Content-Type': 'application/json' \x7d,",
     "    \x7d);",
     "    if (response.status === 401 || response.status === 403) \x7b",
     "      throw new AuthExpired('HTTP ' + response.status);",
     "    \x7d",
     "    if (!response.ok) \x7b",
     "      throw new Error('HTTP ' + response.status);",
     "    \x7d",
     "    const text = await response.text();",
     "    return text ? JSON.parse(text) : null;",
     "  \x7d;",
     "  const finish = (result) => \x7b",
     "    window.__chmResult = result;",
     "    window.__chmDone = true;",
     "  \x7d;",
     "  (async () => \x7b",
     "    try \x7b",
     "      const data = await (async () => \x7b",
     "__BODY__",
     "      \x7d)();",
     "      finish(\x7b success: true, error: null, data \x7d);",
     "    \x7d catch (e) \x7b",
     "      const error = e instanceof AuthExpired ? 'auth_expired' : String((e && e.message) || e);",
     "      finish(\x7b success: false, error, data: null \x7d);",
     "    \x7d",
     "  \x7d)();",
     "  return true;",
     "\x7d)()"]

/-- The configuration: where the service is, for whom, and the parameters of the body. -/
def config (apiBase organization : String) (params : List (String × Node)) : Node :=
  .obj (("apiBase", .str apiBase) :: ("orgId", .str organization) :: params)

/-- Fill the gaps of the frame.  The body is put in first: the gap of the configuration stands
before it, and the configuration may hold anything. -/
def build (config : Node) (body : String) : String :=
  let withBody := Text.replaceFirst bodyGap.toList body.toList frame.toList
  String.ofList (Text.replaceFirst configGap.toList config.compact withBody)

/-- The parameters of a value, which has to be an object or null. -/
def paramsOf : Json → Except String (List (String × Node))
  | .obj members => .ok (toMemberNodes members)
  | .null => .ok []
  | .bool _ => refuse "a boolean"
  | .num (.int _) => refuse "an integer"
  | .num (.float _) => refuse "a float"
  | .str _ => refuse "a string"
  | .arr _ => refuse "a sequence"
where
  refuse (found : String) : Except String (List (String × Node)) :=
    .error ("can only flatten structs and maps (got " ++ found ++ ")")

end Script

end ChatArchive.Operation
