/-
This file is the form of a login step in the companion: the fields a step's payload names, the
controls they are drawn as, what is read of a pasted jar of cookies, and the answer that what
was typed comes to.

The fields, the controls, the typed values and the answer are each kept by names that a bridge
chose. The maps are plain objects, so a name can be that of a member every object inherits, and
a jar that takes in such a member is no longer a map of texts.
-/

import Mathlib.Data.List.DropRight
import Twalk.Library.Fallible
import Twalk.Library.Json
import Twalk.Library.PlainObject
import Twalk.Library.Schema

namespace Twalk.StepFields

/-! ### The fields of a step -/

/-- What a browser makes of texts: a JSON document or none, and whether a text satisfies a
pattern, for a pattern it can compile. -/
structure Browser where
  parseJson : String → Option Json
  tests : String → String → Option Bool

/-- A field of a step, as the companion reads it. -/
structure InputField where
  id : String
  name : String
  description : Option String
  type : Option String
  pattern : Option String
  sourceName : Option String
  cookieDomain : Option String
  required : Bool
  options : List String
deriving DecidableEq, Repr

/-- What a browser calls the value of a field. -/
def InputField.source (field : InputField) : String := field.sourceName.getD field.id

def text : Option Json → Option String
  | some (.string held) => if held = "" then none else some held
  | _ => none

def isObject : Json → Bool
  | .object _ => true
  | .array _ => true
  | _ => false

structure Source where
  type : Option String
  name : Option String
  cookieDomain : Option String
deriving DecidableEq, Repr

def firstSource : Option Json → Option Source
  | some (.array entries) =>
    (entries.find? isObject).map fun source =>
      { type := text (source.get? "type")
        name := text (source.get? "name")
        cookieDomain := text (source.get? "cookie_domain") }
  | _ => none

def inputField (bare : Option String) : Json → Option InputField
  | .string entry =>
    if entry = "" then
      none
    else
      bare.map fun type =>
        { id := entry
          name := entry
          description := none
          type := some type
          pattern := none
          sourceName := none
          cookieDomain := none
          required := true
          options := [] }
  | entry =>
    ((entry.get? "id").bind Json.asStr).map fun id =>
      let source := firstSource (entry.get? "sources")
      { id := id
        name := ((entry.get? "name").bind Json.asStr).getD ((source.bind Source.name).getD id)
        description := (entry.get? "description").bind Json.asStr
        type := (text (entry.get? "type")).or (source.bind Source.type)
        pattern := (entry.get? "pattern").bind Json.asStr
        sourceName := source.bind Source.name
        cookieDomain :=
          (source.bind Source.cookieDomain).or (text (entry.get? "cookie_domain"))
        required := (entry.get? "required").bind Json.asBool != some false
        options :=
          (((entry.get? "options").bind Json.asArray).getD []).filterMap Json.asStr }

def inputFields (payload : Json) (bare : Option String) : List InputField :=
  match payload.get? "fields" with
  | some (.array entries) => entries.filterMap (inputField bare)
  | _ => []

/-! ### Controls -/

inductive Presentation where
  | text
  | password
  | tel
  | email
  | url
  | select
deriving DecidableEq, Repr

structure EntryType where
  control : Presentation
  autocomplete : String
  secret : Bool
deriving DecidableEq, Repr

/-- The types of fields that are drawn as a control of their own. -/
def entryTypes : PlainObject EntryType :=
  ⟨[("username", ⟨.text, "username", false⟩),
    ("password", ⟨.password, "current-password", true⟩),
    ("phone_number", ⟨.tel, "tel", false⟩),
    ("email", ⟨.email, "email", false⟩),
    ("2fa_code", ⟨.text, "one-time-code", false⟩),
    ("token", ⟨.password, "off", true⟩),
    ("url", ⟨.url, "url", false⟩),
    ("domain", ⟨.text, "off", false⟩),
    ("select", ⟨.select, "off", false⟩),
    ("captcha_code", ⟨.text, "off", false⟩)]⟩

/-- The types of fields that one paste answers together. -/
def jarTypes : List String :=
  ["cookie", "local_storage", "request_header", "request_body", "special"]

def jarMember : String := "cookies"

def jarId : String := "jar"

inductive Refusal where
  | noType
  | unknownType
  | noOptions
deriving DecidableEq, Repr

/-- A control. The type of an entry is none where its name is that of an inherited member, which
is found in the table of types and is no type. -/
inductive Control where
  | entry (field : InputField) (drawn : Option EntryType)
  | jar (allCookies : Bool) (domain : Option String) (fields : List InputField)
      (names : List String)
  | refused (field : InputField) (because : Refusal)
deriving DecidableEq, Repr

namespace Control

def id : Control → String
  | entry field _ => field.id
  | jar _ _ _ _ => jarId
  | refused field _ => field.id

def isRefused : Control → Bool
  | refused _ _ => true
  | _ => false

def isRefusedRequired : Control → Bool
  | refused field _ => field.required
  | _ => false

end Control

def addField (drawn : List Control × Option Nat) (field : InputField) :
    List Control × Option Nat :=
  match field.type with
  | none => (drawn.1 ++ [.refused field .noType], drawn.2)
  | some type =>
    if type ∈ jarTypes then
      match drawn.2 with
      | none =>
        (drawn.1 ++ [.jar (type == "cookie") field.cookieDomain [field] [field.source]],
          some drawn.1.length)
      | some place =>
        match drawn.1[place]? with
        | some (.jar allCookies domain fields names) =>
          (drawn.1.set place (.jar (allCookies && type == "cookie")
            (domain.or field.cookieDomain) (fields ++ [field]) (names ++ [field.source])), drawn.2)
        | _ => drawn
    else
      match entryTypes.get type with
      | .undefined => (drawn.1 ++ [.refused field .unknownType], drawn.2)
      | .inherited => (drawn.1 ++ [.entry field none], drawn.2)
      | .own entry =>
        if entry.control = .select ∧ field.options = [] then
          (drawn.1 ++ [.refused field .noOptions], drawn.2)
        else
          (drawn.1 ++ [.entry field (some entry)], drawn.2)

def controlsOf (fields : List InputField) : List Control := (fields.foldl addField ([], none)).1

def answerable (controls : List Control) : Bool :=
  controls.any (fun control => !control.isRefused) && !controls.any Control.isRefusedRequired

/-! ### How the fields are drawn -/

def InputField.isGrouped (field : InputField) : Bool := field.type.any (· ∈ jarTypes)

def controlOf (field : InputField) : Control :=
  match field.type with
  | none => .refused field .noType
  | some type =>
    match entryTypes.get type with
    | .undefined => .refused field .unknownType
    | .inherited => .entry field none
    | .own entry =>
      if entry.control = .select ∧ field.options = [] then .refused field .noOptions
      else .entry field (some entry)

def jarControl (fields : List InputField) : Control :=
  .jar (fields.all fun field => field.type == some "cookie")
    (fields.findSome? InputField.cookieDomain) fields (fields.map InputField.source)

/-- Controls as fields come to: each field that is not grouped has its own, in order, and the
grouped fields have one together where there is one of them. -/
inductive Arranged (fields : List InputField) : List Control × Option Nat → Prop where
  | single (none : fields.filter InputField.isGrouped = []) :
    Arranged fields (fields.map controlOf, .none)
  | jar (front back : List InputField) (some : fields.filter InputField.isGrouped ≠ [])
      (others : front ++ back = fields.filter fun field => !field.isGrouped) :
    Arranged fields
      (front.map controlOf ++ jarControl (fields.filter InputField.isGrouped) ::
        back.map controlOf, .some front.length)

variable {field : InputField}

theorem addField_of_not_grouped (isSingle : field.isGrouped = false)
    (drawn : List Control × Option Nat) :
    addField drawn field = (drawn.1 ++ [controlOf field], drawn.2) := by
  unfold addField controlOf
  cases isType : field.type with
  | none => rfl
  | some type =>
    have outside : type ∉ jarTypes := by
      simpa [InputField.isGrouped, isType] using isSingle
    dsimp only
    rw [if_neg outside]
    cases entryTypes.get type with
    | undefined => rfl
    | inherited => rfl
    | own entry =>
      dsimp only
      split <;> rfl

theorem addField_opens (isGrouped : field.isGrouped = true) (controls : List Control) :
    addField (controls, none) field = (controls ++ [jarControl [field]], some controls.length) := by
  unfold addField jarControl
  cases isType : field.type with
  | none => simp [InputField.isGrouped, isType] at isGrouped
  | some type =>
    have inside : type ∈ jarTypes := by
      simpa [InputField.isGrouped, isType] using isGrouped
    dsimp only
    rw [if_pos inside]
    simp [isType]

theorem addField_joins (isGrouped : field.isGrouped = true) (front back : List Control)
    (fields : List InputField) :
    addField (front ++ jarControl fields :: back, some front.length) field =
      (front ++ jarControl (fields ++ [field]) :: back, some front.length) := by
  unfold addField
  cases isType : field.type with
  | none => simp [InputField.isGrouped, isType] at isGrouped
  | some type =>
    have inside : type ∈ jarTypes := by
      simpa [InputField.isGrouped, isType] using isGrouped
    have isJar : (front ++ jarControl fields :: back)[front.length]? =
        some (jarControl fields) := by
      simp
    dsimp only
    rw [if_pos inside, isJar]
    simp [jarControl, isType, List.findSome?_append]

theorem arranged_foldl (fields : List InputField) :
    Arranged fields (fields.foldl addField ([], none)) := by
  induction fields using List.reverseRecOn with
  | nil => exact .single rfl
  | append_singleton earlier field inductionHypothesis =>
    rw [List.foldl_append, List.foldl_cons, List.foldl_nil]
    generalize earlier.foldl addField ([], none) = drawn at inductionHypothesis ⊢
    cases isGrouped : field.isGrouped with
    | false =>
      have sameGroup : (earlier ++ [field]).filter InputField.isGrouped =
          earlier.filter InputField.isGrouped := by
        simp [isGrouped]
      rw [addField_of_not_grouped isGrouped]
      cases inductionHypothesis with
      | single none =>
        have single := Arranged.single (sameGroup.trans none)
        rwa [List.map_append] at single
      | jar front back some others =>
        have longer : Arranged (earlier ++ [field]) _ := .jar front (back ++ [field])
          (sameGroup.symm ▸ some) (by simp [isGrouped, ← others])
        rw [sameGroup] at longer
        simpa using longer
    | true =>
      have moreGrouped : (earlier ++ [field]).filter InputField.isGrouped =
          earlier.filter InputField.isGrouped ++ [field] := by
        simp [isGrouped]
      have sameSingles : ((earlier ++ [field]).filter fun field => !field.isGrouped) =
          earlier.filter fun field => !field.isGrouped := by
        simp [isGrouped]
      cases inductionHypothesis with
      | single none =>
        have allSingle : (earlier.filter fun field => !field.isGrouped) = earlier := by
          rw [List.filter_eq_self]
          intro other member
          have isSingle := (List.filter_eq_nil_iff.mp none) other member
          simpa using isSingle
        have opened : Arranged (earlier ++ [field]) _ := .jar earlier []
          (by simp [isGrouped]) (by rw [sameSingles, allSingle, List.append_nil])
        rw [moreGrouped, none, List.nil_append, List.map_nil] at opened
        rw [addField_opens isGrouped, List.length_map]
        exact opened
      | jar front back some others =>
        have joined : Arranged (earlier ++ [field]) _ := .jar front back
          (by simp [isGrouped]) (others.trans sameSingles.symm)
        rw [moreGrouped] at joined
        have joins := addField_joins isGrouped (front.map controlOf) (back.map controlOf)
          (earlier.filter InputField.isGrouped)
        rw [List.length_map] at joins
        rw [joins]
        exact joined

/-! ### Pasted cookies -/

def trimmed (characters : List Char) : List Char :=
  (characters.dropWhile isPatternSpace).rdropWhile isPatternSpace

def trim (text : String) : String := String.ofList (trimmed text.toList)

abbrev CookieJar := PlainObject String

inductive Unread where
  | empty
  | unreadable
deriving DecidableEq, Repr

def isSeparator (character : Char) : Bool :=
  character == ';' || character == '\n' || character == '\r'

/-- Whether a character is a letter of the header's name, in either case. The Kelvin sign folds
to a letter. -/
def folds (letter character : Char) : Bool :=
  character.toLower == letter || letter == 'k' && character.toNat == 0x212A

def withoutHeaderName (characters : List Char) : List Char :=
  match characters with
  | c :: o :: p :: k :: i :: e :: colon :: rest =>
    if folds 'c' c && folds 'o' o && folds 'o' p && folds 'k' k && folds 'i' i && folds 'e' e &&
        colon == ':' then
      rest.dropWhile isPatternSpace
    else
      characters
  | _ => characters

def pairOf (piece : List Char) : Option (String × String) :=
  let pair := withoutHeaderName (trimmed piece)
  match pair.dropWhile (· != '=') with
  | [] => none
  | _ :: rest =>
    let front := pair.takeWhile (· != '=')
    let name := trimmed front
    let value := trimmed rest
    if front = [] ∨ name = [] ∨ value = [] then none
    else some (String.ofList name, String.ofList value)

def exported (entry : Json) : Option (String × String) :=
  match entry.get? "name", entry.get? "value" with
  | some (.string name), some (.string value) => if name = "" then none else some (name, value)
  | _, _ => none

def memberOf : String × Json → Option (String × String)
  | (name, .string value) => if name = "" then none else some (name, value)
  | _ => none

def fromJson : Json → CookieJar
  | .array entries => PlainObject.empty.setAll (entries.filterMap exported)
  | .object members => PlainObject.empty.setAll (members.filterMap memberOf)
  | _ => PlainObject.empty

def filled (jar : CookieJar) : Except Unread CookieJar :=
  if jar.own = [] then .error .unreadable else .ok jar

def beginsJson (characters : List Char) : Bool :=
  characters.head?.any fun character => character == '\x7b' || character == '['

def parseCookies (browser : Browser) (pasted : String) : Except Unread CookieJar :=
  let text := trim pasted
  if text = "" then
    .error .empty
  else if beginsJson text.toList then
    match browser.parseJson text with
    | some parsed => filled (fromJson parsed)
    | none => .error .unreadable
  else
    filled (PlainObject.empty.setAll ((text.toList.splitOnP isSeparator).filterMap pairOf))

def isMissing (jar : CookieJar) (name : String) : Bool :=
  match jar.get name with
  | .own value => value == ""
  | .inherited => false
  | .undefined => true

def missing (required : List String) (jar : CookieJar) : List String :=
  required.filter (isMissing jar)

/-! ### The jar that is sent -/

/-- What throws while an answer is put together. -/
inductive Fault where
  | typeError
  | rangeError
deriving DecidableEq, Repr

/-- What is found of a pasted jar under a name: a text of the paste, a function every object
inherits or the object they inherit it from. -/
inductive Found where
  | text (value : String)
  | function (member : String)
  | prototype
deriving DecidableEq, Repr

def found (cookies : CookieJar) (field : InputField) : Option Found :=
  match cookies.get field.source with
  | .own value => if value = "" then none else some (.text value)
  | .inherited =>
    some (if field.source = PlainObject.prototypeName then .prototype else .function field.source)
  | .undefined => none

/-- The jar of an answer, with the function that was put in its prototype's place, if any. -/
structure Jar where
  members : PlainObject Found
  prototype : Option String
deriving DecidableEq, Repr

/-- The members of a function that no object inheriting from it can be given. -/
def isReadOnly (function name : String) : Bool :=
  name ∈ ["length", "name", "arguments", "caller"] ||
    function == "constructor" && name == "prototype"

def Jar.put (jar : Jar) (name : String) (value : Found) : Except Fault Jar :=
  if name = PlainObject.prototypeName then
    .ok (match value with
      | .text _ => jar
      | .function member => { jar with prototype := some member }
      | .prototype => { jar with prototype := none })
  else if jar.members.own? name = none ∧ jar.prototype.any (isReadOnly · name) then
    .error .typeError
  else
    .ok { jar with members := jar.members.set name value }

/-- A value of an answer: a typed text, the text of a jar, or the text of what a function that is
not the jar's own answered in its place. -/
inductive Sent where
  | text (value : String)
  | jar (members : PlainObject Found)
  | other
deriving DecidableEq, Repr

def Jar.called (jar : Jar) (function : String) : Except Fault Sent :=
  if function ∈ ["__defineGetter__", "__defineSetter__"] then .error .typeError
  else if function = "valueOf" then .ok (.jar jar.members)
  else .ok .other

def Jar.stringify (jar : Jar) : Except Fault Sent :=
  match jar.members.own? "toJSON" with
  | some (.function "toLocaleString") =>
    match jar.members.own? "toString" with
    | some (.function "toLocaleString") => .error .rangeError
    | some (.function function) => jar.called function
    | some _ => .error .typeError
    | none => if jar.prototype = none then .ok .other else .error .typeError
  | some (.function function) => jar.called function
  | _ => .ok (.jar jar.members)

def jarOf (cookies : CookieJar) (fields : List InputField) : Except Fault Jar :=
  fields.foldlM
    (fun jar field =>
      match found cookies field with
      | some value => jar.put field.id value
      | none => .ok jar)
    { members := PlainObject.empty, prototype := none }

def jarText (cookies : CookieJar) (fields : List InputField) : Except Fault Sent :=
  (jarOf cookies fields).bind Jar.stringify

/-! ### The answer -/

inductive Complaint where
  | empty
  | pattern
  | unreadable
  | incomplete (names : List String)
deriving DecidableEq, Repr

structure Problem where
  controlId : String
  because : Complaint
deriving DecidableEq, Repr

inductive Answer where
  | ok (data : PlainObject Sent)
  | problems (problems : List Problem)
deriving DecidableEq, Repr

abbrev Values := PlainObject String

def typedUnder (values : Values) (id : String) : Except Fault String :=
  match values.get id with
  | .own value => .ok value
  | .inherited => .error .typeError
  | .undefined => .ok ""

/-- Whether a value satisfies a field's pattern. A pattern that cannot be compiled is ignored. -/
def matchesPattern (browser : Browser) (pattern : Option String) (value : String) : Bool :=
  match pattern with
  | none => true
  | some pattern => pattern == "" || (browser.tests pattern value).getD true

inductive Outcome where
  | skipped
  | problem (problem : Problem)
  | member (name : String) (value : Sent)
deriving DecidableEq, Repr

def requiredSources (fields : List InputField) : List String :=
  (fields.filter InputField.required).map InputField.source

def outcomeOfJar (browser : Browser) (fields : List InputField) (pasted : String) :
    Except Fault Outcome :=
  match parseCookies browser pasted with
  | .error _ => .ok (.problem ⟨jarId, .unreadable⟩)
  | .ok cookies =>
    let absent := missing (requiredSources fields) cookies
    if absent ≠ [] then .ok (.problem ⟨jarId, .incomplete absent⟩)
    else (jarText cookies fields).map (Outcome.member jarMember)

def outcomeOfEntry (browser : Browser) (field : InputField) (value : String) : Outcome :=
  if matchesPattern browser field.pattern value then .member field.id (.text value)
  else .problem ⟨field.id, .pattern⟩

/-- What a control comes to with a text that is not blank. -/
def outcomeOfTyped (browser : Browser) (typed : String) : Control → Except Fault Outcome
  | .jar _ _ fields _ => outcomeOfJar browser fields typed
  | .entry field _ => .ok (outcomeOfEntry browser field typed)
  | .refused _ _ => .ok .skipped

def outcomeOf (browser : Browser) (values : Values) (control : Control) : Except Fault Outcome :=
  if control.isRefused then .ok .skipped
  else
    (typedUnder values control.id).bind fun typed =>
      if trim typed = "" then .ok (.problem ⟨control.id, .empty⟩)
      else outcomeOfTyped browser typed control

def Outcome.problem? : Outcome → Option Problem
  | .problem found => some found
  | _ => none

def Outcome.member? : Outcome → Option (String × Sent)
  | .member name value => some (name, value)
  | _ => none

/-- The answer of a step, or every reason it is not ready. -/
def answerOf (browser : Browser) (controls : List Control) (values : Values) :
    Except Fault Answer :=
  (controls.mapM (outcomeOf browser values)).map fun outcomes =>
    let problems := outcomes.filterMap Outcome.problem?
    if problems ≠ [] then .problems problems
    else .ok (PlainObject.empty.setAll (outcomes.filterMap Outcome.member?))

/-! ### When an answer is ready -/

variable {cookies : CookieJar}

variable {fields : List InputField}

section

variable (browser : Browser) (values : Values)

def JarReady (fields : List InputField) (pasted : String) : Prop :=
  ∃ cookies, parseCookies browser pasted = .ok cookies ∧
    missing (requiredSources fields) cookies = [] ∧ ∃ sent, jarText cookies fields = .ok sent

def Ready : Control → Prop
  | .refused _ _ => True
  | .entry field _ =>
    ∃ typed, values.own? field.id = some typed ∧ trim typed ≠ "" ∧
      matchesPattern browser field.pattern typed = true
  | .jar _ _ fields _ =>
    ∃ typed, values.own? jarId = some typed ∧ trim typed ≠ "" ∧ JarReady browser fields typed

def entered (control : Control) : Option (String × Sent) :=
  match outcomeOf browser values control with
  | .ok outcome => outcome.member?
  | .error _ => none

variable {browser values}

theorem trim_empty : trim "" = "" := rfl

theorem typedUnder_eq_ok_iff {id typed : String} (visible : trim typed ≠ "") :
    typedUnder values id = .ok typed ↔ values.own? id = some typed := by
  unfold typedUnder PlainObject.get
  cases values.own? id with
  | some value => simp
  | none =>
    have written : typed ≠ "" := by
      rintro rfl
      exact visible trim_empty
    dsimp only
    by_cases isInherited : id ∈ PlainObject.inherited
    · rw [if_pos isInherited]
      simp
    · rw [if_neg isInherited]
      simp [written.symm]

variable {typed : String} {control : Control}

theorem outcomeOf_of_own (isDrawn : control.isRefused = false)
    (isOwn : values.own? control.id = some typed) (visible : trim typed ≠ "") :
    outcomeOf browser values control = outcomeOfTyped browser typed control := by
  unfold outcomeOf
  rw [isDrawn, (typedUnder_eq_ok_iff visible).mpr isOwn]
  simp only [Bool.false_eq_true, if_false, Except.bind, if_neg visible]

theorem exists_typed (isDrawn : control.isRefused = false) {outcome : Outcome}
    (comes : outcomeOf browser values control = .ok outcome) (isFine : outcome.problem? = none) :
    ∃ typed, values.own? control.id = some typed ∧ trim typed ≠ "" := by
  unfold outcomeOf at comes
  rw [isDrawn] at comes
  simp only [Bool.false_eq_true, if_false] at comes
  obtain ⟨typed, isTyped, continued⟩ := bind_eq_ok.mp comes
  by_cases blank : trim typed = ""
  · rw [if_pos blank] at continued
    cases continued
    exact nomatch isFine
  · exact ⟨typed, (typedUnder_eq_ok_iff blank).mp isTyped, blank⟩

theorem outcomeOfEntry_isFine :
    (outcomeOfEntry browser field typed).problem? = none ↔
      matchesPattern browser field.pattern typed = true := by
  unfold outcomeOfEntry
  cases matchesPattern browser field.pattern typed with
  | false => simp [Outcome.problem?]
  | true => simp [Outcome.problem?]

theorem outcomeOfJar_isFine {pasted : String} :
    (∃ outcome, outcomeOfJar browser fields pasted = .ok outcome ∧ outcome.problem? = none) ↔
      JarReady browser fields pasted := by
  unfold outcomeOfJar JarReady
  cases parseCookies browser pasted with
  | error unread => simp [Outcome.problem?]
  | ok cookies =>
    dsimp only
    by_cases complete : missing (requiredSources fields) cookies = []
    · cases written : jarText cookies fields with
      | error fault => simp [complete, Except.map, written]
      | ok sent => simp [complete, Except.map, Outcome.problem?, written]
    · simp [complete, Outcome.problem?]

theorem ready_iff :
    Ready browser values control ↔
      ∃ outcome, outcomeOf browser values control = .ok outcome ∧ outcome.problem? = none := by
  cases control with
  | refused field because => exact iff_of_true trivial ⟨.skipped, rfl, rfl⟩
  | entry field drawn =>
    constructor
    · rintro ⟨typed, isOwn, visible, fits⟩
      exact ⟨_, outcomeOf_of_own rfl isOwn visible, outcomeOfEntry_isFine.mpr fits⟩
    · rintro ⟨outcome, comes, isFine⟩
      obtain ⟨typed, isOwn, visible⟩ := exists_typed rfl comes isFine
      have isTyped : outcomeOf browser values (.entry field drawn) =
          .ok (outcomeOfEntry browser field typed) := outcomeOf_of_own rfl isOwn visible
      cases isTyped.symm.trans comes
      exact ⟨typed, isOwn, visible, outcomeOfEntry_isFine.mp isFine⟩
  | jar allCookies domain fields names =>
    constructor
    · rintro ⟨typed, isOwn, visible, isReady⟩
      obtain ⟨outcome, comes, isFine⟩ := outcomeOfJar_isFine.mpr isReady
      exact ⟨outcome, (outcomeOf_of_own rfl isOwn visible).trans comes, isFine⟩
    · rintro ⟨outcome, comes, isFine⟩
      obtain ⟨typed, isOwn, visible⟩ := exists_typed rfl comes isFine
      have isTyped : outcomeOf browser values (.jar allCookies domain fields names) =
          outcomeOfJar browser fields typed := outcomeOf_of_own rfl isOwn visible
      have same := isTyped.symm.trans comes
      exact ⟨typed, isOwn, visible, outcomeOfJar_isFine.mp ⟨outcome, same, isFine⟩⟩

variable {controls : List Control}

theorem entered_of_mapM {outcomes : List Outcome}
    (done : controls.mapM (outcomeOf browser values) = .ok outcomes) :
    outcomes.filterMap Outcome.member? = controls.filterMap (entered browser values) := by
  have paired := forall₂_of_mapM_eq_ok done
  clear done
  induction paired with
  | nil => rfl
  | @cons control outcome controls outcomes head _ inductionHypothesis =>
    have same : entered browser values control = outcome.member? := by
      unfold entered
      rw [head]
    rw [List.filterMap_cons, List.filterMap_cons, same, inductionHypothesis]

theorem answerOf_eq_ok_iff {data : PlainObject Sent} :
    answerOf browser controls values = .ok (.ok data) ↔
      (∀ control ∈ controls, Ready browser values control) ∧
        data = PlainObject.empty.setAll (controls.filterMap (entered browser values)) := by
  unfold answerOf
  constructor
  · intro answers
    cases done : controls.mapM (outcomeOf browser values) with
    | error fault =>
      rw [done] at answers
      exact nomatch answers
    | ok outcomes =>
    rw [done] at answers
    have isAnswer := Except.ok.inj answers
    by_cases fine : outcomes.filterMap Outcome.problem? = []
    · dsimp only at isAnswer
      rw [if_neg (not_not.mpr fine)] at isAnswer
      have paired := forall₂_of_mapM_eq_ok done
      refine ⟨fun control member => ?_, ?_⟩
      · obtain ⟨outcome, inOutcomes, comes⟩ := exists_result_of_forall₂ paired member
        exact ready_iff.mpr ⟨outcome, comes, List.filterMap_eq_nil_iff.mp fine outcome inOutcomes⟩
      · rw [← entered_of_mapM done]
        exact (Answer.ok.inj isAnswer).symm
    · dsimp only at isAnswer
      rw [if_pos fine] at isAnswer
      exact nomatch isAnswer
  · rintro ⟨ready, rfl⟩
    obtain ⟨outcomes, done⟩ : ∃ outcomes, controls.mapM (outcomeOf browser values) = .ok outcomes :=
      exists_mapM_eq_ok fun control member => (ready_iff.mp (ready control member)).imp fun _ => And.left
    have fine : outcomes.filterMap Outcome.problem? = [] := by
      rw [List.filterMap_eq_nil_iff]
      intro outcome member
      obtain ⟨control, inControls, comes⟩ :=
        exists_input_of_forall₂ (forall₂_of_mapM_eq_ok done) member
      obtain ⟨other, otherComes, isFine⟩ := ready_iff.mp (ready control inControls)
      rw [Except.ok.inj (comes.symm.trans otherComes)]
      exact isFine
    rw [done, ← entered_of_mapM done]
    simp [Except.map, fine]

theorem entered_entry {drawn : Option EntryType} (isOwn : values.own? field.id = some typed)
    (visible : trim typed ≠ "") (fits : matchesPattern browser field.pattern typed = true) :
    entered browser values (.entry field drawn) = some (field.id, .text typed) := by
  have comes : outcomeOf browser values (.entry field drawn) =
      outcomeOfTyped browser typed (.entry field drawn) := outcomeOf_of_own rfl isOwn visible
  have isMember : outcomeOfEntry browser field typed = .member field.id (.text typed) := if_pos fits
  have isOutcome : outcomeOfTyped browser typed (.entry field drawn) =
      .ok (.member field.id (.text typed)) := congrArg Except.ok isMember
  unfold entered
  rw [comes, isOutcome]
  rfl

theorem entered_jar {allCookies : Bool} {domain : Option String} {names : List String} {sent : Sent}
    (isOwn : values.own? jarId = some typed) (visible : trim typed ≠ "")
    (isRead : parseCookies browser typed = .ok cookies)
    (complete : missing (requiredSources fields) cookies = [])
    (written : jarText cookies fields = .ok sent) :
    entered browser values (.jar allCookies domain fields names) = some (jarMember, sent) := by
  have comes : outcomeOf browser values (.jar allCookies domain fields names) =
      outcomeOfTyped browser typed (.jar allCookies domain fields names) :=
    outcomeOf_of_own rfl isOwn visible
  have isOutcome : outcomeOfTyped browser typed (.jar allCookies domain fields names) =
      .ok (.member jarMember sent) := by
    show outcomeOfJar browser fields typed = _
    unfold outcomeOfJar
    rw [isRead]
    dsimp only
    rw [if_neg (not_not.mpr complete), written]
    rfl
  unfold entered
  rw [comes, isOutcome]
  rfl

end

/-! ### What a jar holds -/

def carried (cookies : CookieJar) (fields : List InputField) : List (String × Found) :=
  fields.filterMap fun field => (found cookies field).map fun value => (field.id, value)

theorem members_of_put {jar next : Jar} {name : String} {value : Found}
    (isPut : jar.put name value = .ok next) : next.members = jar.members.set name value := by
  unfold Jar.put at isPut
  by_cases isPrototype : name = PlainObject.prototypeName
  · rw [if_pos isPrototype] at isPut
    rw [← Except.ok.inj isPut, isPrototype, PlainObject.set_prototype]
    cases value <;> rfl
  · rw [if_neg isPrototype, ite_error_eq_ok_iff] at isPut
    rw [← Except.ok.inj isPut.2]

theorem members_of_jarOf {jar : Jar} (made : jarOf cookies fields = .ok jar) :
    jar.members = PlainObject.empty.setAll (carried cookies fields) := by
  unfold jarOf at made
  generalize isStart : ({ members := PlainObject.empty, prototype := none } : Jar) = start at made
  have isEmpty : PlainObject.empty = start.members := by rw [← isStart]
  rw [isEmpty]
  clear isStart isEmpty
  induction fields generalizing start with
  | nil => rw [← Except.ok.inj made]; rfl
  | cons field rest inductionHypothesis =>
    rw [List.foldlM_cons] at made
    obtain ⟨next, isPut, continued⟩ := bind_eq_ok.mp made
    rw [inductionHypothesis next continued]
    unfold carried
    rw [List.filterMap_cons]
    cases isFound : found cookies field with
    | none =>
      rw [isFound] at isPut
      rw [← Except.ok.inj isPut]
      rfl
    | some value =>
      rw [isFound] at isPut
      rw [members_of_put isPut]
      rfl

theorem jarText_of_made {jar : Jar} (made : jarOf cookies fields = .ok jar)
    (plain : ∀ member, jar.members.own? "toJSON" ≠ some (.function member)) :
    jarText cookies fields = .ok (.jar jar.members) := by
  unfold jarText
  rw [made]
  show jar.stringify = _
  unfold Jar.stringify
  split
  · rename_i found
    exact absurd found (plain _)
  · rename_i found
    exact absurd found (plain _)
  · rfl

theorem members_of_jarText {members : PlainObject Found}
    (written : jarText cookies fields = .ok (.jar members)) :
    members = PlainObject.empty.setAll (carried cookies fields) := by
  obtain ⟨jar, made, isText⟩ := bind_eq_ok.mp written
  rw [← members_of_jarOf made]
  have called : ∀ function, jar.called function = .ok (.jar members) → members = jar.members := by
    intro function answers
    unfold Jar.called at answers
    split at answers
    · exact nomatch answers
    · split at answers
      · exact (Sent.jar.inj (Except.ok.inj answers)).symm
      · exact nomatch answers
  unfold Jar.stringify at isText
  split at isText
  · split at isText
    · exact nomatch isText
    · exact called _ isText
    · exact nomatch isText
    · split at isText <;> exact nomatch isText
  · exact called _ isText
  · exact (Sent.jar.inj (Except.ok.inj isText)).symm

end Twalk.StepFields
