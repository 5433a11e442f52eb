/-
This file models how the collector finds the mail an approved reply answers: the
original in `Mailbox::send_reply` of `collector/src/mails.rs`, with the queries of
`jmap.rs` and the sender's check of `outbound.rs`. Two filters are asked for the
Message-ID, each for one mail, and where neither answers, the newest mails are read page
by page. What is answered is always from the recipient. But of several mails that carry
one Message-ID a filter may answer a stranger's, and a page that the server caps below
what was asked is taken for the last: a mail that is there is then refused for good.
-/

import Twalk.Jmap
import Twalk.Library.Fallible

namespace Twalk.Collector.Outbound

open Jmap (Mail items texts queriedIds queryPage)

/-! ### The mail answered -/

structure ApprovedReply where
  inReplyTo : String
  recipient : String
deriving DecidableEq, Repr

/-- Why a reply is not sent: what a retry may fix, and what it cannot. -/
inductive SendError where
  | transient (why : String)
  | permanent (why : String)
deriving DecidableEq, Repr

def bareMessageId (messageId : String) : String :=
  match (Text.trim messageId).toList with
  | '<' :: rest => if rest.getLast? = some '>' then String.ofList rest.dropLast else messageId
  | _ => messageId

def firstId (query : Json) : Option String := (items query "ids").head?.bind Json.asStr

def carries (email : Json) (messageId : String) : Bool :=
  (texts email "messageId").any fun id => bareMessageId id == bareMessageId messageId

def idsWithMessageId (emailGet : Json) (messageId : String) : List String :=
  ((items emailGet "list").filter fun email => carries email messageId).filterMap fun email =>
    (email.get? "id").bind Json.asStr

def recipientAddress (recipient : String) : String :=
  let address :=
    if "mailto:".toList.isPrefixOf recipient.toList then
      String.ofList (recipient.toList.drop "mailto:".toList.length)
    else recipient
  Text.toAsciiLowercase (Text.trim address)

def isFromRecipient (reply : ApprovedReply) (original : Mail) : Bool :=
  Text.toAsciiLowercase (Text.trim original.sender.email) ==
    Text.toAsciiLowercase (recipientAddress reply.recipient)

def originalIsFromRecipient (reply : ApprovedReply) (original : Mail) : Except SendError Unit :=
  if isFromRecipient reply original then .ok ()
  else
    let expected := recipientAddress reply.recipient
    .error (.permanent (s!"the mail found under {reply.inReplyTo} is from " ++
      s!"{original.sender.email}, not from {expected}, the sender the approval is about: not " ++
      "sent, because a Message-ID is the sender's to choose and the owner's words must not go " ++
      "to whoever reused one"))

/-! ### Finding it -/

/-- The results of the calls a reply finds its original by: a query for one mail by a header filter,
a page of the account's newest mails, the Message-IDs of mails and the mails. -/
structure SendServer where
  emailByMessageId : String → Except SendError Json
  newestInAccount : Nat → Except SendError Json
  messageIdsOf : List String → Except SendError Json
  emailGet : List String → Except SendError Json

/-- How many pages of the newest mails are read. -/
def threadScanPages : Nat := 5

def threadNotFound (scanned : Nat) : SendError :=
  .permanent ("no mail carries the Message-ID this reply answers: no header filter answered it, " ++
    s!"and it is in none of the {scanned} newest mails of the mailbox")

/-- The mails that a reply may answer, from the newest on: those of the first page that has any. A
page shorter than was asked for is the last. -/
def readPages (server : SendServer) (reply : ApprovedReply) :
    Nat → Nat → Except SendError (List String)
  | 0, scanned => .error (threadNotFound scanned)
  | pages + 1, scanned => do
    let ids := queriedIds (← server.newestInAccount scanned)
    if ids.isEmpty then .error (threadNotFound scanned)
    else
      let found := idsWithMessageId (← server.messageIdsOf ids) reply.inReplyTo
      if !found.isEmpty then .ok found
      else if ids.length < queryPage then .error (threadNotFound (scanned + ids.length))
      else readPages server reply pages (scanned + ids.length)

def threadByReadingTheMailbox (server : SendServer) (reply : ApprovedReply) :
    Except SendError (List String) :=
  readPages server reply threadScanPages 0

def choose (reply : ApprovedReply) (read : List Mail) : Except SendError Mail :=
  match (read.find? (isFromRecipient reply)).or read.head? with
  | none => .error (.permanent "the mail answered could not be read back")
  | some original => do
    originalIsFromRecipient reply original
    return original

/-- The mails a reply may answer: the one a filter came to, or those of the newest that carry its
Message-ID. -/
def candidatesOf (server : SendServer) (reply : ApprovedReply) :
    Option String → Except SendError (List String)
  | some id => .ok [id]
  | none => threadByReadingTheMailbox server reply

def originalOf (server : SendServer) (reply : ApprovedReply) : Except SendError Mail := do
  let written := firstId (← server.emailByMessageId reply.inReplyTo)
  let bare := firstId (← server.emailByMessageId (bareMessageId reply.inReplyTo))
  let candidates ← candidatesOf server reply (written.or bare)
  choose reply ((items (← server.emailGet candidates) "list").filterMap Mail.parse)

theorem isFromRecipient_of_choose {reply : ApprovedReply} {read : List Mail} {original : Mail}
    (chosen : choose reply read = .ok original) : isFromRecipient reply original = true := by
  unfold choose at chosen
  split at chosen
  · exact nomatch chosen
  · rename_i first isFirst
    obtain ⟨_, checked, same⟩ := bind_eq_ok.mp chosen
    obtain rfl := Except.ok.inj same
    unfold originalIsFromRecipient at checked
    by_contra notFrom
    rw [if_neg notFrom] at checked
    exact nomatch checked

theorem exists_choose_iff {reply : ApprovedReply} {read : List Mail} :
    (∃ original, choose reply read = .ok original) ↔
      ∃ mail ∈ read, isFromRecipient reply mail = true := by
  constructor
  · rintro ⟨original, chosen⟩
    have isFrom := isFromRecipient_of_choose chosen
    unfold choose at chosen
    split at chosen
    · exact nomatch chosen
    · rename_i first isFirst
      obtain ⟨_, _, same⟩ := bind_eq_ok.mp chosen
      obtain rfl := Except.ok.inj same
      refine ⟨first, ?_, isFrom⟩
      cases found : read.find? (isFromRecipient reply) with
      | some mail =>
        rw [found, Option.some_or] at isFirst
        obtain rfl := Option.some.inj isFirst
        exact List.mem_of_find?_eq_some found
      | none =>
        rw [found, Option.none_or] at isFirst
        exact List.mem_of_head? isFirst
  · rintro ⟨mail, isRead, isFrom⟩
    obtain ⟨first, found⟩ := Option.isSome_iff_exists.mp
      (List.find?_isSome.mpr ⟨mail, isRead, isFrom⟩)
    refine ⟨first, ?_⟩
    unfold choose
    rw [found, Option.some_or]
    dsimp only
    rw [originalIsFromRecipient, if_pos (List.find?_some found :)]
    rfl

/-! ### A mailbox -/

/-- The mails of an account, the newest first, each an Email object under its id, and how its server
answers: how many ids it puts on a page at most, and which mail, if any, a header filter for a
Message-ID comes to. -/
structure MailStore where
  newest : List (String × Json)
  cap : Nat
  filtered : String → Option String
  distinct : (newest.map Prod.fst).Nodup
  named : ∀ held ∈ newest, (held.2.get? "id").bind Json.asStr = some held.1
  positive : 0 < cap
  sound : ∀ messageId id, filtered messageId = some id →
    ∃ held ∈ newest, held.1 = id ∧ carries held.2 messageId = true

namespace MailStore

variable (store : MailStore)

/-- How many ids the server puts on a page of the newest mails. -/
def pageSize : Nat := min store.cap queryPage

def pageFrom (position page : Nat) : List (String × Json) :=
  (store.newest.drop (position + page * store.pageSize)).take store.pageSize

/-- The Email object of a mail. -/
def held? (id : String) : Option Json :=
  (store.newest.find? fun held => held.1 == id).map Prod.snd

def messageIdsOf (email : Json) : Json :=
  .object [("id", (email.get? "id").getD .null), ("messageId", (email.get? "messageId").getD .null)]

def queryAnswer (ids : List String) : Json := .object [("ids", .array (ids.map Json.string))]

def getAnswer (emails : List Json) : Json := .object [("list", .array emails)]

def server : SendServer where
  emailByMessageId messageId := .ok (queryAnswer (store.filtered messageId).toList)
  newestInAccount position := .ok (queryAnswer ((store.pageFrom position 0).map Prod.fst))
  messageIdsOf ids := .ok (getAnswer ((ids.filterMap store.held?).map messageIdsOf))
  emailGet ids := .ok (getAnswer (ids.filterMap store.held?))

variable (reply : ApprovedReply)

def FromRecipient (held : String × Json) : Prop :=
  ∃ mail, Mail.parse held.2 = some mail ∧ isFromRecipient reply mail = true

/-- What a reply owes: where one of the newest mails carries its Message-ID and is from its
recipient, it is not refused; and what it answers is from the recipient. -/
structure Answers : Prop where
  found : (∃ held ∈ store.newest.take (threadScanPages * queryPage),
      carries held.2 reply.inReplyTo = true ∧ FromRecipient reply held) →
    ∃ original, originalOf store.server reply = .ok original ∧
      isFromRecipient reply original = true
  theirs : ∀ original, originalOf store.server reply = .ok original →
    isFromRecipient reply original = true

/-- The mail a filter comes to is from the recipient. Where none does, one of the mails that carry
the Message-ID on the first page that has any is from them, and that is the first page of all unless
the server's pages are as long as is asked. -/
def ShowsTheirs : Prop :=
  match (store.filtered reply.inReplyTo).or (store.filtered (bareMessageId reply.inReplyTo)) with
  | some id => ∃ held ∈ store.newest, held.1 = id ∧ FromRecipient reply held
  | none => ∃ page < threadScanPages, (page = 0 ∨ queryPage ≤ store.cap) ∧
      (∀ earlier < page, ∀ held ∈ store.pageFrom 0 earlier,
        carries held.2 reply.inReplyTo = false) ∧
        ∃ held ∈ store.pageFrom 0 page,
          carries held.2 reply.inReplyTo = true ∧ FromRecipient reply held

/-! ### What the server answers -/

variable {store reply}

theorem queriedIds_queryAnswer (ids : List String) : queriedIds (queryAnswer ids) = ids := by
  simp [queriedIds, queryAnswer, Jmap.texts, items, Json.get?, Json.lookup, Json.asArray,
    List.filterMap_map, Function.comp_def, Json.asStr]

theorem firstId_queryAnswer (id : Option String) : firstId (queryAnswer id.toList) = id := by
  cases id <;> rfl

theorem items_getAnswer (emails : List Json) : items (getAnswer emails) "list" = emails := by
  simp [getAnswer, items, Json.get?, Json.lookup, Json.asArray]

theorem get?_id_messageIdsOf (email : Json) :
    (messageIdsOf email).get? "id" = some ((email.get? "id").getD .null) := rfl

theorem get?_messageId_messageIdsOf (email : Json) :
    (messageIdsOf email).get? "messageId" = some ((email.get? "messageId").getD .null) := rfl

theorem carries_messageIdsOf (email : Json) (messageId : String) :
    carries (messageIdsOf email) messageId = carries email messageId := by
  have same : items (messageIdsOf email) "messageId" = items email "messageId" := by
    unfold items
    rw [get?_messageId_messageIdsOf, Option.bind_some]
    cases email.get? "messageId" <;> rfl
  unfold carries texts
  rw [same]

theorem held?_of_mem {held : String × Json} (isHeld : held ∈ store.newest) :
    store.held? held.1 = some held.2 := by
  obtain ⟨other, found⟩ := Option.isSome_iff_exists.mp
    (List.find?_isSome (p := fun one => one.1 == held.1)|>.mpr ⟨held, isHeld, beq_self_eq_true _⟩)
  have sameId : other.1 = held.1 := eq_of_beq (List.find?_some found :)
  have same : other = held :=
    List.inj_on_of_nodup_map store.distinct (List.mem_of_find?_eq_some found) isHeld sameId
  unfold held?
  rw [found, Option.map_some, same]

theorem filterMap_held? {page : List (String × Json)}
    (listed : ∀ held ∈ page, held ∈ store.newest) :
    (page.map Prod.fst).filterMap store.held? = page.map Prod.snd := by
  induction page with
  | nil => rfl
  | cons held rest inductionHypothesis =>
    obtain ⟨isHeld, others⟩ := List.forall_mem_cons.mp listed
    rw [List.map_cons, List.filterMap_cons_some (held?_of_mem isHeld), inductionHypothesis others,
      List.map_cons]

variable {position page : Nat}

theorem mem_of_pageFrom {held : String × Json} (onPage : held ∈ store.pageFrom position page) :
    held ∈ store.newest :=
  List.mem_of_mem_drop (List.mem_of_mem_take onPage)

theorem idsWithMessageId_page {page : List (String × Json)}
    (listed : ∀ held ∈ page, held ∈ store.newest) (messageId : String) :
    idsWithMessageId (getAnswer (((page.map Prod.fst).filterMap store.held?).map messageIdsOf))
        messageId =
      (page.filter fun held => carries held.2 messageId).map Prod.fst := by
  unfold idsWithMessageId
  rw [items_getAnswer, filterMap_held? listed]
  induction page with
  | nil => rfl
  | cons held rest inductionHypothesis =>
    obtain ⟨isHeld, others⟩ := List.forall_mem_cons.mp listed
    have idOf : ((messageIdsOf held.2).get? "id").bind Json.asStr = some held.1 := by
      have named := store.named held isHeld
      rw [get?_id_messageIdsOf, Option.bind_some]
      cases found : held.2.get? "id" with
      | none =>
        rw [found] at named
        exact nomatch named
      | some value =>
        rw [found] at named
        exact named
    simp only [List.map_cons, List.filter_cons, carries_messageIdsOf]
    cases carries held.2 messageId with
    | false => exact inductionHypothesis others
    | true =>
      rw [if_pos rfl, if_pos rfl, List.map_cons, ← inductionHypothesis others]
      exact List.filterMap_cons_some idOf

/-! ### Reading page by page -/

theorem pageFrom_next :
    store.pageFrom (position + store.pageSize) page = store.pageFrom position (page + 1) := by
  unfold pageFrom
  rw [Nat.succ_mul, Nat.add_comm (page * store.pageSize), Nat.add_assoc]

theorem pageFrom_of_short (short : (store.pageFrom position 0).length < store.pageSize) :
    store.pageFrom position (page + 1) = [] := by
  unfold pageFrom at *
  rw [List.length_take, List.length_drop] at short
  have ends : store.newest.length ≤ position + (page + 1) * store.pageSize := by
    have atLeast : store.pageSize ≤ (page + 1) * store.pageSize :=
      Nat.le_mul_of_pos_left _ (Nat.succ_pos page)
    omega
  rw [List.drop_eq_nil_of_le ends, List.take_nil]

/-- The page whose mails are found: the first that has any, which is the first of all unless pages
are as long as is asked. -/
def FoundOn (store : MailStore) (reply : ApprovedReply) (position page : Nat) : Prop :=
  (page = 0 ∨ queryPage ≤ store.cap) ∧
    (∀ earlier < page, ∀ held ∈ store.pageFrom position earlier,
      carries held.2 reply.inReplyTo = false) ∧
      ∃ held ∈ store.pageFrom position page, carries held.2 reply.inReplyTo = true

theorem foundOn_succ_iff
    (none : ∀ held ∈ store.pageFrom position 0, carries held.2 reply.inReplyTo = false) :
    store.FoundOn reply position (page + 1) ↔
      queryPage ≤ (store.pageFrom position 0).length ∧
        store.FoundOn reply (position + store.pageSize) page := by
  have atMost : (store.pageFrom position 0).length ≤ store.pageSize := List.length_take_le _ _
  have isMin : store.pageSize = min store.cap queryPage := rfl
  constructor
  · rintro ⟨isFull | long, earlier, held, onPage, found⟩
    · exact nomatch isFull
    · have full : queryPage ≤ (store.pageFrom position 0).length := by
        by_contra short
        rw [pageFrom_of_short (by omega)] at onPage
        exact absurd onPage List.not_mem_nil
      refine ⟨full, .inr long, fun before isBefore => ?_, held, ?_, found⟩
      · rw [pageFrom_next]
        exact earlier (before + 1) (Nat.succ_lt_succ isBefore)
      · rw [pageFrom_next]
        exact onPage
  · rintro ⟨full, -, earlier, held, onPage, found⟩
    rw [pageFrom_next] at onPage
    refine ⟨.inr (by omega), fun before isBefore => ?_, held, onPage, found⟩
    cases before with
    | zero => exact none
    | succ before =>
      rw [← pageFrom_next]
      exact earlier before (Nat.lt_of_succ_lt_succ isBefore)

theorem foundOn_zero_iff {position : Nat} :
    store.FoundOn reply position 0 ↔
      ∃ held ∈ store.pageFrom position 0, carries held.2 reply.inReplyTo = true := by
  refine ⟨fun found => found.2.2, fun found => ⟨.inl rfl, fun earlier isBefore => ?_, found⟩⟩
  exact absurd isBefore (Nat.not_lt_zero earlier)

def foundIds (store : MailStore) (reply : ApprovedReply) (position page : Nat) : List String :=
  ((store.pageFrom position page).filter fun held => carries held.2 reply.inReplyTo).map Prod.fst

theorem readPages_eq_ok_iff {pages position : Nat} {found : List String} :
    readPages store.server reply pages position = .ok found ↔
      ∃ page < pages, store.FoundOn reply position page ∧
        found = store.foundIds reply position page := by
  induction pages generalizing position with
  | zero =>
    refine ⟨(fun read => nomatch read), ?_⟩
    rintro ⟨page, isPage, -⟩
    exact absurd isPage (Nat.not_lt_zero page)
  | succ pages inductionHypothesis =>
    have unfolded : readPages store.server reply (pages + 1) position =
        if ((store.pageFrom position 0).map Prod.fst).isEmpty then
          .error (threadNotFound position)
        else if !(store.foundIds reply position 0).isEmpty then
          .ok (store.foundIds reply position 0)
        else if (store.pageFrom position 0).length < queryPage then
          .error (threadNotFound (position + (store.pageFrom position 0).length))
        else
          readPages store.server reply pages (position + (store.pageFrom position 0).length) := by
      have ids : queriedIds (queryAnswer ((store.pageFrom position 0).map Prod.fst)) =
          (store.pageFrom position 0).map Prod.fst := queriedIds_queryAnswer _
      have found : idsWithMessageId (getAnswer ((((store.pageFrom position 0).map
          Prod.fst).filterMap store.held?).map messageIdsOf)) reply.inReplyTo =
            store.foundIds reply position 0 :=
        idsWithMessageId_page (fun held onPage => mem_of_pageFrom onPage) _
      rw [← found, ← List.length_map Prod.fst, ← ids]
      rfl
    rw [unfolded]
    by_cases onFirst : ∃ held ∈ store.pageFrom position 0, carries held.2 reply.inReplyTo = true
    · obtain ⟨held, onPage, isFound⟩ := onFirst
      have someIds : held.1 ∈ store.foundIds reply position 0 :=
        List.mem_map_of_mem (List.mem_filter.mpr ⟨onPage, isFound⟩)
      have notEmpty : ¬ ((store.pageFrom position 0).map Prod.fst).isEmpty = true := by
        rw [List.isEmpty_iff, List.map_eq_nil_iff]
        exact List.ne_nil_of_mem onPage
      have isSome : (!(store.foundIds reply position 0).isEmpty) = true := by
        rw [Bool.not_eq_true', List.isEmpty_eq_false_iff]
        exact List.ne_nil_of_mem someIds
      rw [if_neg notEmpty, if_pos isSome]
      constructor
      · intro read
        exact ⟨0, Nat.succ_pos pages, foundOn_zero_iff.mpr ⟨held, onPage, isFound⟩,
          (Except.ok.inj read).symm⟩
      · rintro ⟨page, -, isFirst, rfl⟩
        cases page with
        | zero => rfl
        | succ page =>
          have unfound := isFirst.2.1 0 (Nat.succ_pos page) held onPage
          exact nomatch isFound.symm.trans unfound
    · have none : ∀ held ∈ store.pageFrom position 0,
          carries held.2 reply.inReplyTo = false := by
        intro held onPage
        by_contra isFound
        exact onFirst ⟨held, onPage, by simpa using isFound⟩
      have noIds : store.foundIds reply position 0 = [] := by
        unfold foundIds
        rw [List.map_eq_nil_iff, List.filter_eq_nil_iff]
        intro held onPage
        rw [none held onPage]
        decide
      have later : (∃ page < pages + 1, store.FoundOn reply position page ∧
          found = store.foundIds reply position page) ↔
            queryPage ≤ (store.pageFrom position 0).length ∧
              ∃ page < pages, store.FoundOn reply (position + store.pageSize) page ∧
                found = store.foundIds reply (position + store.pageSize) page := by
        constructor
        · rintro ⟨page, isPage, isFound, same⟩
          cases page with
          | zero => exact absurd (foundOn_zero_iff.mp isFound) onFirst
          | succ page =>
            obtain ⟨full, isFoundToo⟩ := (foundOn_succ_iff none).mp isFound
            refine ⟨full, page, Nat.lt_of_succ_lt_succ isPage, isFoundToo, ?_⟩
            unfold foundIds at *
            rw [pageFrom_next]
            exact same
        · rintro ⟨full, page, isPage, isFound, same⟩
          refine ⟨page + 1, Nat.succ_lt_succ isPage,
            (foundOn_succ_iff none).mpr ⟨full, isFound⟩, ?_⟩
          unfold foundIds at *
          rw [← pageFrom_next]
          exact same
      rw [later, noIds]
      by_cases full : queryPage ≤ (store.pageFrom position 0).length
      · have atMost : (store.pageFrom position 0).length ≤ store.pageSize :=
          List.length_take_le _ _
        have isMin : store.pageSize = min store.cap queryPage := rfl
        have isLength : (store.pageFrom position 0).length = store.pageSize := by omega
        have positive : 0 < queryPage := by decide
        have notEmpty : ¬ ((store.pageFrom position 0).map Prod.fst).isEmpty = true := by
          rw [List.isEmpty_iff, List.map_eq_nil_iff, ← List.length_eq_zero_iff]
          omega
        rw [if_neg notEmpty, if_neg (by decide), if_neg (Nat.not_lt.mpr full), isLength,
          inductionHypothesis]
        exact (and_iff_right (isLength ▸ full)).symm
      · refine iff_of_false ?_ fun both => full both.1
        split
        · exact fun read => nomatch read
        · rw [if_neg (by decide), if_pos (Nat.lt_of_not_le full)]
          exact fun read => nomatch read

/-! ### When it answers -/

theorem exists_choose_found_iff {ids : List String} :
    (∃ original, choose reply ((ids.filterMap store.held?).filterMap Mail.parse) = .ok original) ↔
      ∃ held ∈ store.newest, held.1 ∈ ids ∧ FromRecipient reply held := by
  rw [exists_choose_iff]
  constructor
  · rintro ⟨mail, isRead, isFrom⟩
    obtain ⟨email, isFound, parsed⟩ := List.mem_filterMap.mp isRead
    obtain ⟨id, isAsked, isHeld⟩ := List.mem_filterMap.mp isFound
    obtain ⟨held, found, rfl⟩ := Option.map_eq_some_iff.mp isHeld
    have sameId : held.1 = id := eq_of_beq (List.find?_some found :)
    exact ⟨held, List.mem_of_find?_eq_some found, sameId ▸ isAsked, mail, parsed, isFrom⟩
  · rintro ⟨held, isHeld, isAsked, mail, parsed, isFrom⟩
    exact ⟨mail, List.mem_filterMap.mpr ⟨held.2, List.mem_filterMap.mpr ⟨held.1, isAsked,
      held?_of_mem isHeld⟩, parsed⟩, isFrom⟩

theorem originalOf_server :
    originalOf store.server reply =
      candidatesOf store.server reply ((store.filtered reply.inReplyTo).or
        (store.filtered (bareMessageId reply.inReplyTo))) >>= fun candidates =>
        choose reply ((candidates.filterMap store.held?).filterMap Mail.parse) := by
  have found : originalOf store.server reply =
      candidatesOf store.server reply
        ((firstId (queryAnswer (store.filtered reply.inReplyTo).toList)).or
          (firstId (queryAnswer (store.filtered (bareMessageId reply.inReplyTo)).toList))) >>=
        fun candidates =>
        choose reply ((items (getAnswer (candidates.filterMap store.held?)) "list").filterMap
          Mail.parse) := rfl
  rw [found, firstId_queryAnswer, firstId_queryAnswer]
  simp only [items_getAnswer]

theorem exists_originalOf_iff :
    (∃ original, originalOf store.server reply = .ok original) ↔ store.ShowsTheirs reply := by
  rw [originalOf_server]
  unfold ShowsTheirs
  generalize (store.filtered reply.inReplyTo).or
    (store.filtered (bareMessageId reply.inReplyTo)) = filtered
  cases filtered with
  | some id =>
    change (∃ original, choose reply (([id].filterMap store.held?).filterMap Mail.parse) =
      .ok original) ↔ _
    rw [exists_choose_found_iff]
    refine exists_congr fun held => and_congr_right fun _ => and_congr_left fun _ => ?_
    exact List.mem_singleton
  | none =>
    constructor
    · rintro ⟨original, isOriginal⟩
      obtain ⟨candidates, read, chosen⟩ := bind_eq_ok.mp isOriginal
      have isRead : readPages store.server reply threadScanPages 0 = .ok candidates := read
      obtain ⟨page, isPage, ⟨long, earlier, -⟩, rfl⟩ := readPages_eq_ok_iff.mp isRead
      obtain ⟨held, isHeld, isFound, isFrom⟩ := exists_choose_found_iff.mp ⟨original, chosen⟩
      obtain ⟨other, isOther, sameId⟩ := List.mem_map.mp isFound
      obtain ⟨onPage, carried⟩ := List.mem_filter.mp isOther
      obtain rfl : other = held :=
        List.inj_on_of_nodup_map store.distinct (mem_of_pageFrom onPage) isHeld sameId
      exact ⟨page, isPage, long, earlier, other, onPage, carried, isFrom⟩
    · rintro ⟨page, isPage, long, earlier, held, onPage, carried, isFrom⟩
      have isFound : held.1 ∈ store.foundIds reply 0 page :=
        List.mem_map_of_mem (List.mem_filter.mpr ⟨onPage, carried⟩)
      obtain ⟨original, chosen⟩ := exists_choose_found_iff.mpr
        ⟨held, mem_of_pageFrom onPage, isFound, isFrom⟩
      have isRead : readPages store.server reply threadScanPages 0 =
          .ok (store.foundIds reply 0 page) :=
        readPages_eq_ok_iff.mpr ⟨page, isPage, ⟨long, earlier, held, onPage, carried⟩, rfl⟩
      exact ⟨original, bind_eq_ok.mpr ⟨_, isRead, chosen⟩⟩

theorem isFromRecipient_of_originalOf {original : Mail}
    (isOriginal : originalOf store.server reply = .ok original) :
    isFromRecipient reply original = true := by
  rw [originalOf_server] at isOriginal
  obtain ⟨candidates, -, chosen⟩ := bind_eq_ok.mp isOriginal
  exact isFromRecipient_of_choose chosen

/-- A reply finds the mail it answers, when it is one of the newest, exactly when what the filters
come to, or the first page that has the Message-ID, shows one from the recipient. -/
theorem answers_iff (store : MailStore) (reply : ApprovedReply) :
    store.Answers reply ↔
      ((∃ held ∈ store.newest.take (threadScanPages * queryPage),
          carries held.2 reply.inReplyTo = true ∧ FromRecipient reply held) →
        store.ShowsTheirs reply) := by
  constructor
  · intro answers isThere
    obtain ⟨original, isOriginal, -⟩ := answers.found isThere
    exact exists_originalOf_iff.mp ⟨original, isOriginal⟩
  · intro shows
    refine ⟨fun isThere => ?_, fun original => isFromRecipient_of_originalOf⟩
    obtain ⟨original, isOriginal⟩ := exists_originalOf_iff.mpr (shows isThere)
    exact ⟨original, isOriginal, isFromRecipient_of_originalOf isOriginal⟩

end MailStore

namespace TwoSenders

def email (id sender : String) : Json :=
  .object [("id", .string id), ("messageId", .array [.string "m1@example.org"]),
    ("from", .array [.object [("email", .string sender)]])]

theorem parse_email {sender : String} {person : Jmap.Correspondent}
    (parsed : Jmap.Correspondent.parse (.object [("email", .string sender)]) = some person)
    (id : String) : ∃ mail, Mail.parse (email id sender) = some mail ∧ mail.sender = person := by
  have named : (email id sender).get? "id" = some (.string id) := rfl
  have senders : (items (email id sender) "from").findSome? Jmap.Correspondent.parse =
      some person := by
    have objects : items (email id sender) "from" = [.object [("email", .string sender)]] := rfl
    rw [objects, List.findSome?_cons, parsed]
  unfold Mail.parse
  rw [named, senders]
  exact ⟨_, rfl, rfl⟩

/-- The contact's mail, and a later one of a stranger's under its Message-ID, which the filter comes
to. -/
def store : MailStore where
  newest := [("e2", email "e2" "stranger@example.net"), ("e1", email "e1" "contact@example.org")]
  cap := 200
  filtered messageId := if messageId = "<m1@example.org>" then some "e2" else none
  distinct := by decide
  named := by
    intro held isHeld
    rcases List.mem_cons.mp isHeld with rfl | isLast
    · rfl
    · rw [List.mem_singleton.mp isLast]
      rfl
  positive := by decide
  sound := by
    intro messageId id isFiltered
    split at isFiltered
    · rename_i isWritten
      obtain rfl := Option.some.inj isFiltered
      refine ⟨_, List.mem_cons_self, rfl, ?_⟩
      rw [isWritten]
      decide
    · exact nomatch isFiltered

def reply : ApprovedReply := ⟨"<m1@example.org>", "mailto:contact@example.org"⟩

/-- The reply is refused, with the contact's mail in the mailbox. -/
theorem not_answers : ¬ ∀ (store : MailStore) (reply : ApprovedReply), store.Answers reply := by
  intro answers
  have isThere : ∃ held ∈ store.newest.take (threadScanPages * queryPage),
      carries held.2 reply.inReplyTo = true ∧ MailStore.FromRecipient reply held := by
    obtain ⟨mail, parsed, sender⟩ := @parse_email "contact@example.org"
      ⟨none, "contact@example.org"⟩ (by decide) "e1"
    have isTheirs : isFromRecipient reply mail = true := by
      unfold isFromRecipient
      rw [sender]
      decide
    have all : store.newest.take (threadScanPages * queryPage) = store.newest :=
      List.take_of_length_le (by decide)
    rw [all]
    exact ⟨("e1", email "e1" "contact@example.org"), List.mem_cons_of_mem _ List.mem_cons_self,
      by decide, mail, parsed, isTheirs⟩
  obtain ⟨original, isOriginal, -⟩ := (answers store reply).found isThere
  obtain ⟨held, isHeld, isFiltered, mail, parsed, isFrom⟩ :=
    MailStore.exists_originalOf_iff.mp ⟨original, isOriginal⟩
  have isStranger : held.2 = email "e2" "stranger@example.net" := by
    rcases List.mem_cons.mp isHeld with rfl | isLast
    · rfl
    · rw [List.mem_singleton.mp isLast] at isFiltered
      exact absurd isFiltered (by decide)
  obtain ⟨other, parsedToo, sender⟩ := @parse_email "stranger@example.net"
    ⟨none, "stranger@example.net"⟩ (by decide) "e2"
  rw [isStranger, parsedToo] at parsed
  obtain rfl := Option.some.inj parsed
  unfold isFromRecipient at isFrom
  rw [sender] at isFrom
  exact absurd isFrom (by decide)

end TwoSenders

end Twalk.Collector.Outbound
