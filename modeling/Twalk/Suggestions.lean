/-
This file models what the clerk makes of one suggestion off the bus: the post of
`clerk/src/text.rs`, the delivery line of `clerk/src/refusals.rs` and
`handle_suggestion` of `clerk/src/consumers.rs`. What an RFC 3339 text is, as an instant,
as a day and as an hour, is the `time` library's, and the sentences of the Companion's
catalogues are the Companion's.
-/

import Twalk.Reference

namespace Twalk.Clerk

/-! ### Words -/

/-- The two languages of the clerk's own sentences. -/
inductive Lang where
  | fr
  | en
deriving DecidableEq, Repr

/-- The `time` library: an RFC 3339 text as seconds since the epoch, as the day it falls on and as
the time of that day. -/
structure Dates where
  expiresAtUnix : String → Option Int
  dayUtc : String → Option String
  clockUtc : String → Option String

/-- The Companion's sentences, by their keys. -/
abbrev Catalogue := Lang → String → Option String

def networkName (network : String) : String :=
  match network with
  | "whatsapp" => "WhatsApp"
  | "signal" => "Signal"
  | "sms" => "SMS"
  | "telegram" => "Telegram"
  | "discord" => "Discord"
  | "matrix" => "Matrix"
  | other => other

/-! ### The event -/

structure Content where
  body : String
deriving DecidableEq, Repr

/-- Who is answered and what they asked, as the persona says it. -/
structure Answering where
  contact : Option String
  summary : String
deriving DecidableEq, Repr

/-- Whether the times a reply names were checked. -/
structure Verified where
  state : String
  count : Option Nat
deriving DecidableEq, Repr

structure SuggestionData where
  personaId : String
  suggestion : Content
  context : Option Answering
  expiresAt : Option String
  times : Option Verified
deriving DecidableEq, Repr

structure Suggestion where
  id : String
  time : String
  network : String
  data : SuggestionData
deriving DecidableEq, Repr

def Suggestion.reference (suggestion : Suggestion) : Reference :=
  ⟨suggestion.id, suggestion.data.expiresAt⟩

/-! ### What the Gateway says of it -/

/-- Whether the reply can reach the contact, in the Gateway's words. -/
structure Delivery where
  reach : String
  detail : String
deriving DecidableEq, Repr

/-- One step of what the draft did before it was written. -/
structure Step where
  kind : String
  windowFrom : Option String
  windowTo : Option String
  outcome : Option String
  intervals : Option Nat
  asked : Option String
deriving DecidableEq, Repr

structure SuggestionRead where
  standing : String
  delivery : Delivery
  path : List Step
deriving DecidableEq, Repr

/-- What asking the Gateway about a suggestion comes to: without a device and with a dead session it
is not asked. -/
inductive Asked where
  | noDevice
  | sessionDead
  | found (read : SuggestionRead)
  | refused (status : Nat) (code : String)
  | unauthenticated
  | failed
deriving DecidableEq, Repr

/-- Why a delivery was not read. -/
inductive Unread where
  | noDevice
  | gatewayUnreachable
  | gatewayRefused
  | notFound
deriving DecidableEq, Repr

def deliveryPrefix : Lang → String
  | .fr => "Livraison : "
  | .en => "Delivery: "

def deliveryLine (catalogue : Catalogue) (lang : Lang) (delivery : Delivery) : String :=
  let key := match delivery.reach, delivery.detail with
    | "can_reach", _ => "approvals.delivery.canReach"
    | "cannot_reach", "owner_device_credential_gone" =>
      "approvals.delivery.cannotReachNoOwnerDevice"
    | "cannot_reach", _ => "approvals.delivery.cannotReach"
    | _, _ => "approvals.delivery.unknown"
  let detail := (catalogue lang ("approvals.delivery.detail." ++ delivery.detail)).getD
    delivery.detail
  deliveryPrefix lang ++
    match catalogue lang key with
    | some template => template.replace "\x7bdetail\x7d" detail
    | none => delivery.reach ++ " (" ++ detail ++ ")"

def unreadWords : Lang → Unread → String
  | .fr, .noDevice => "aucun device configuré"
  | .fr, .gatewayUnreachable => "le Companion Gateway n’a pas répondu"
  | .fr, .gatewayRefused => "le Companion Gateway a refusé la lecture"
  | .fr, .notFound => "le Companion Gateway ne trouve pas cette suggestion"
  | .en, .noDevice => "no device configured"
  | .en, .gatewayUnreachable => "the Companion Gateway did not answer"
  | .en, .gatewayRefused => "the Companion Gateway refused the read"
  | .en, .notFound => "the Companion Gateway cannot find this suggestion"

def deliveryUnreadLine (lang : Lang) (why : Unread) : String :=
  match lang with
  | .fr => deliveryPrefix .fr ++ "non lue par le greffier (" ++ unreadWords .fr why ++
      ") — l’écran Approbations la connaît."
  | .en => deliveryPrefix .en ++ "not read by the clerk (" ++ unreadWords .en why ++
      ") — the Approvals screen knows it."

/-! ### The post -/

/-- The most steps a post draws before it counts them. -/
def mostPathLines : Nat := 4

def stepLine (dates : Dates) (lang : Lang) (step : Step) : Option String :=
  match step.kind with
  | "freebusy" =>
    match step.windowFrom.bind dates.dayUtc, step.windowTo.bind dates.dayUtc with
    | some first, some last =>
      match lang, step.outcome, step.intervals with
      | .fr, some "served", some intervals =>
        some s!"· a lu vos disponibilités du {first} au {last} — {intervals} périodes occupées"
      | .fr, some outcome, _ =>
        some s!"· a essayé de lire vos disponibilités du {first} au {last}, sans y arriver ({outcome})"
      | .en, some "served", some intervals =>
        some s!"· read your free/busy from {first} to {last} — {intervals} busy periods"
      | .en, some outcome, _ =>
        some s!"· tried to read your free/busy from {first} to {last}, and could not ({outcome})"
      | _, none, _ => none
    | _, _ => none
  | "event_facts" =>
    step.outcome.map fun outcome => match lang, outcome with
      | .fr, "served" => "· a demandé ce que porte un de vos événements"
      | .fr, outcome =>
        s!"· a essayé de demander ce que porte un de vos événements, sans y arriver ({outcome})"
      | .en, "served" => "· asked what one of your events carries"
      | .en, outcome => s!"· tried to ask what one of your events carries, and could not ({outcome})"
  | "asked" =>
    step.asked.map fun asked => match lang with
      | .fr => s!"· vous a demandé : {asked}"
      | .en => s!"· asked you: {asked}"
  | _ => none

/-- What the draft did, as lines: the first few, and how many more there are. -/
def pathLines (dates : Dates) (lang : Lang) (path : List Step) : String :=
  let drawn := path.filterMap (stepLine dates lang)
  let counted := drawn.length - mostPathLines
  String.join ((drawn.take mostPathLines).map (· ++ "\n")) ++
    if counted = 0 then ""
    else match lang with
      | .fr => s!"· et {counted} autres lectures de votre agenda\n"
      | .en => s!"· and {counted} more reads of your calendar\n"

def timesLine (lang : Lang) (times : Option Verified) : String :=
  match times with
  | none => ""
  | some times =>
    match times.state, times.count, lang with
    | "checked", some 1, .fr => "· l'horaire proposé a été vérifié dans votre agenda\n"
    | "checked", some count, .fr =>
      s!"· les {count} horaires proposés ont été vérifiés dans votre agenda\n"
    | "checked", none, .fr => "· les horaires proposés ont été vérifiés\n"
    | "checked", some 1, .en => "· the time it offers was checked against your calendar\n"
    | "checked", some count, .en =>
      s!"· the {count} times it offers were checked against your calendar\n"
    | "checked", none, .en => "· the times it offers were checked\n"
    | "unverified", _, .fr => "⚠️ cette réponse nomme une heure que rien n'a vérifiée\n"
    | "unverified", _, .en => "⚠️ this reply names a time nothing has verified\n"
    | _, _, _ => ""

/-- The expiry, after the network on the first line of a post. -/
def expiryWords (dates : Dates) (lang : Lang) (expiresAt : String) : String :=
  match lang, dates.dayUtc expiresAt, dates.clockUtc expiresAt with
  | .fr, some day, some clock => s!" · expire le {day} à {clock}"
  | .fr, _, _ => s!" · expire à {expiresAt}"
  | .en, some day, some clock => s!" · expires on {day} at {clock}"
  | .en, _, _ => s!" · expires at {expiresAt}"

def contextLine (answering : Answering) : String :=
  match answering.contact with
  | some contact =>
    if Text.contains answering.summary contact then answering.summary ++ "\n"
    else contact ++ " · " ++ answering.summary ++ "\n"
  | none => answering.summary ++ "\n"

/-- A post without its last line. -/
def aboveReference (dates : Dates) (lang : Lang) (suggestion : Suggestion)
    (deliveryLine path : String) : String :=
  let network := networkName suggestion.network
  let expiry := (suggestion.data.expiresAt.map (expiryWords dates lang)).getD ""
  let context := (suggestion.data.context.map contextLine).getD ""
  let times := timesLine lang suggestion.data.times
  let body := suggestion.data.suggestion.body
  match lang with
  | .fr => "Réponse proposée · " ++ network ++ expiry ++ "\n" ++ context ++ path ++ times ++
      "« " ++ body ++ " »\n" ++ deliveryLine ++
      "\n✅ envoyer tel quel · ❌ refuser · répondre ici pour envoyer un autre texte"
  | .en => "Proposed reply · " ++ network ++ expiry ++ "\n" ++ context ++ path ++ times ++
      "“" ++ body ++ "”\n" ++ deliveryLine ++
      "\n✅ send as is · ❌ decline · reply here to send a different text"

def approvalPost (dates : Dates) (lang : Lang) (suggestion : Suggestion)
    (deliveryLine path : String) : String :=
  aboveReference dates lang suggestion deliveryLine path ++ "\n" ++ line suggestion.reference

/-! ### One delivery -/

inductive BeforePost where
  | post (deliveryLine path : String)
  | alreadyApproved
deriving DecidableEq, Repr

/-- What the Gateway's answer comes to: nothing to post for what is approved, and a post in every
other case. -/
def readBeforePost (dates : Dates) (catalogue : Catalogue) (lang : Lang) : Asked → BeforePost
  | .noDevice => .post (deliveryUnreadLine lang .noDevice) ""
  | .sessionDead => .post (deliveryUnreadLine lang .gatewayRefused) ""
  | .found read =>
    if read.standing = "approved" then .alreadyApproved
    else .post (deliveryLine catalogue lang read.delivery) (pathLines dates lang read.path)
  | .refused status _ =>
    if status = 404 ∨ status = 410 then .post (deliveryUnreadLine lang .notFound) ""
    else .post (deliveryUnreadLine lang .gatewayRefused) ""
  | .unauthenticated => .post (deliveryUnreadLine lang .gatewayRefused) ""
  | .failed => .post (deliveryUnreadLine lang .gatewayUnreachable) ""

def ownPostsLimit : Nat := 1000

def alreadyPosted (posts : List String) (id : String) : Bool :=
  (posts.filterMap parse).any fun reference => reference.suggestionId == id

inductive Skipped where
  | expired
  | duplicate
  | alreadyApproved
deriving DecidableEq, Repr

/-- What a delivery comes to: nothing, an error of the relay's, or a post that is written. -/
inductive Handled where
  | skipped (why : Skipped)
  | unread
  | written (content : String)
deriving DecidableEq, Repr

/-- `handle_suggestion`, with the clerk's own posts as the relay serves them, unless it does not. -/
def handleSuggestion (dates : Dates) (catalogue : Catalogue) (lang : Lang) (now : Int)
    (posts : Option (List String)) (asked : Asked) (suggestion : Suggestion) : Handled :=
  if suggestion.data.expiresAt.any fun expiresAt => hasExpired dates.expiresAtUnix expiresAt now then
    .skipped .expired
  else match posts with
    | none => .unread
    | some posts =>
      if alreadyPosted posts suggestion.id then .skipped .duplicate
      else match readBeforePost dates catalogue lang asked with
        | .alreadyApproved => .skipped .alreadyApproved
        | .post deliveryLine path =>
          .written (approvalPost dates lang suggestion deliveryLine path)

end Twalk.Clerk
