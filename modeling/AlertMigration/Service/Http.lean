import AlertMigration.Json
import AlertMigration.Service.Endpoint

/-!
A framework that takes requests in HTTP with bodies in JSON.

A target is what a request names: a path, and maybe a query and a fragment, which play no part. The path
is cleaned of dot segments, and then its percent escapes are resolved. They are resolved twice, so that an
escaped escape counts as well. A line feed at the end is overlooked. The endpoint for migrations looks at
two fields of a body, which has to be a JSON object. An answer that finds fault with a body repeats the
values at fault; an infinite number cannot be written in it.
-/

namespace AlertMigration.Service

/-! ### Routes -/

inductive Route where
  | health
  | migration
deriving DecidableEq, Repr

namespace Route

def path : Route → Text
  | .health => "/health".toList
  | .migration => "/api/migrate/alerts".toList

/-- The path in a target. The slash at its start may be missing. -/
def pathOf (target : Text) : Text :=
  let path := target.takeWhile fun c => c != '?' && c != '#'
  if path.head? == some '/' then path else '/' :: path

/-- The segments that are left when single dots are dropped and double dots are carried out. Those kept so
far stand last first. -/
def resolveDots (kept : List Text) : List Text → List Text
  | [] => kept.reverse
  | segment :: rest =>
      if segment == ['.'] then resolveDots kept rest
      else if segment == ['.', '.'] then resolveDots (if kept == [[]] then kept else kept.tail) rest
      else resolveDots (segment :: kept) rest

def withoutDots (path : Text) : Text :=
  ['/'].intercalate (resolveDots [] (path.splitOn '/'))

/-- Resolves the percent escapes of a text. Bytes beyond ASCII are not put together, since no route has
such a character. -/
def unescape : Text → Text
  | '%' :: high :: low :: rest =>
      match Text.hexValue? high, Text.hexValue? low with
      | some first, some second => Char.ofNat (16 * first + second) :: unescape rest
      | _, _ => '%' :: unescape (high :: low :: rest)
  | c :: rest => c :: unescape rest
  | [] => []

def plainPath (target : Text) : Text :=
  let path := unescape (unescape (withoutDots (pathOf target)))
  if path.getLast? == some '\n' then path.dropLast else path

def ofTarget? (target : Text) : Option Route :=
  [health, migration].find? fun route => plainPath target == route.path

end Route

/-! ### Bodies -/

inductive Body where
  | absent
  | unreadable
  | content (value : Json.Value)
deriving Repr

structure Request where
  method : String
  /-- The path, with a query and a fragment if there are any. -/
  target : Text
  body : Body
deriving Repr

inductive BodyFault where
  | missingBody
  | notObject
  | missingSource
  | sourceNotText
  | unknownPolicy
deriving DecidableEq, Repr

namespace BodyFault

def rule : BodyFault → String
  | .missingBody | .missingSource => "missing"
  | .notObject => "model_attributes_type"
  | .sourceNotText => "string_type"
  | .unknownPolicy => "literal_error"

def place : BodyFault → List String
  | .missingBody | .notObject => ["body"]
  | .missingSource | .sourceNotText => ["body", "source"]
  | .unknownPolicy => ["body", "on_unterminated"]

def message : BodyFault → String
  | .missingBody | .missingSource => "Field required"
  | .notObject => "Input should be a valid dictionary or object to extract fields from"
  | .sourceNotText => "Input should be a valid string"
  | .unknownPolicy => "Input should be 'skip', 'collapse' or 'error'"

end BodyFault

structure Finding where
  fault : BodyFault
  value : Json.Value
deriving Repr

namespace Body

def content? : Body → Option (Option Json.Value)
  | .absent => some none
  | .unreadable => none
  | .content value => some (some value)

def ofText (text : Text) : Body :=
  match Json.read text with
  | .ok value => .content value
  | .error _ => .unreadable

def readSource (fields : List (Text × Json.Value)) : Except Finding Text :=
  match Json.field? fields "source".toList with
  | none => .error ⟨.missingSource, .object fields⟩
  | some (.text source) => .ok source
  | some value => .error ⟨.sourceNotText, value⟩

def readPolicy (fields : List (Text × Json.Value)) : Except Finding (Option Policy) :=
  match Json.field? fields "on_unterminated".toList with
  | none | some .null => .ok none
  | some value =>
      let policy? :=
        match value with
        | .text name => Policy.ofName? name
        | _ => none
      match policy? with
      | some policy => .ok (some policy)
      | none => .error ⟨.unknownPolicy, value⟩

end Body

def readOrder (content : Option Json.Value) : Except (List Finding) MigrationOrder :=
  match content with
  | none => .error [⟨.missingBody, .null⟩]
  | some (.object fields) =>
      match Body.readSource fields, Body.readPolicy fields with
      | .ok source, .ok policy => .ok ⟨source, policy⟩
      | .ok _, .error finding => .error [finding]
      | .error finding, .ok _ => .error [finding]
      | .error first, .error second => .error [first, second]
  | some value => .error [⟨.notObject, value⟩]

/-! ### The framework -/

inductive Notice where
  | invalid (faults : List BodyFault)
  /-- An answer that repeats an infinite number cannot be written. -/
  | unwritable
  | plain (text : String)
  | broken
deriving DecidableEq, Repr

def complain (findings : List Finding) : Answer Notice :=
  if findings.all (·.value.isFinite) then ⟨422, .notice (.invalid (findings.map Finding.fault))⟩
  else ⟨500, .notice .unwritable⟩

/-- Methods are compared without regard to case. -/
def receive (request : Request) : Except (Answer Notice) Call :=
  match Route.ofTarget? request.target, request.method.toUpper with
  | some .health, "GET" => .ok .health
  | some .migration, "POST" =>
      match request.body.content? with
      | none => .error ⟨400, .notice (.plain "There was an error parsing the body")⟩
      | some content =>
          match readOrder content with
          | .error findings => .error (complain findings)
          | .ok order => .ok (.migration order)
  | some _, _ => .error ⟨405, .notice (.plain "Method Not Allowed")⟩
  | none, _ => .error ⟨404, .notice (.plain "Not Found")⟩

def present : Ending → Answer Notice
  | .returned result => ⟨200, .result result⟩
  | .refused status detail => ⟨status, .detail detail⟩
  | .failed _ => ⟨500, .notice .broken⟩

def http : Framework Request Notice :=
  ⟨receive, present⟩

theorem http_transparent : http.Transparent where
  returned _ := rfl
  refused _ _ := rfl

def unwritableMessage : String :=
  "Out of range float values are not JSON compliant"

def Answer.isUnwritable (answer : Answer Notice) : Bool :=
  answer.content == .notice .unwritable

end AlertMigration.Service
