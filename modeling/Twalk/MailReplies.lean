/-
This file follows what becomes of an approved reply at the owner's mail server, however often the
approval is delivered: `Mailbox::send_reply` and `already_answered` of `collector/src/mails.rs`,
with what the two calls of `outbound.rs` do to the mails. JMAP knows no transaction, so a reply is
looked for in Sent by the approval it carries before it is sent. One that a page of newer mails has
buried there is sent again; and where Drafts is Sent, one that was never submitted is found too.
-/

import Twalk.Library.System
import Twalk.Originals

namespace Twalk.Collector.Outbound

/-! ### What the server holds -/

/-- A reply, under the id of the event that approves it. -/
structure Approved where
  eventId : String
  reply : ApprovedReply

/-- Where a reply is written and where it lands: Drafts is Sent in an account that has none. -/
structure Mailboxes where
  sentId : String
  draftsId : String

/-- A mail: the approval it carries, and the mailboxes it is in. -/
structure Letter where
  approval : Option String
  boxes : List String

/-- The mails of the account, the newest first, and the approval of each submission. -/
structure Post where
  letters : List Letter
  submissions : List String

def Post.start : Post := ⟨[], []⟩

def Post.sent (post : Post) (mailboxes : Mailboxes) : List Letter :=
  post.letters.filter fun letter => letter.boxes.contains mailboxes.sentId

/-- The mailboxes of a reply that was submitted: put in Sent and taken out of Drafts, as far as that
leaves it in any. -/
def landed (mailboxes : Mailboxes) : List String :=
  let moved := [mailboxes.sentId, mailboxes.draftsId].filter (· ≠ mailboxes.draftsId)
  if moved = [] then [mailboxes.draftsId] else moved

/-! ### A delivery -/

/-- How far a request comes: not to the server, or its answer not back, with what the transport says
of it. -/
inductive Reach where
  | never (why : String)
  | unanswered (why : String)
  | answered

/-- What the server answers about a creation: that it made it, that it did not, or an error of the
whole method. -/
inductive Creation where
  | created
  | notCreated (kind : String)
  | failed (kind : String)

/-- What comes of the calls of one delivery, besides what the server holds: those before the
look into Sent, the two of that look, the identity the reply leaves as, what the mail answered is
found by, the batch that sends, and whether the draft of a refused submission is destroyed. -/
structure Delivery where
  asked : Except SendError Unit
  listed : Except SendError Unit
  read : Except SendError Unit
  identity : Except SendError String
  server : SendServer
  reach : Reach
  email : Creation
  submission : Creation
  destroyed : Bool

structure Sent where
  alreadySent : Bool
  postedAs : Option String

def methodErrorsARetryCannotChange : List String :=
  ["invalidArguments", "invalidResultReference", "forbidden", "accountNotFound",
    "accountNotSupportedByMethod", "accountReadOnly", "unknownMethod", "requestTooLarge"]

def refusalsARetryCannotChange : List String :=
  ["invalidEmail", "invalidProperties", "invalidRecipients", "noRecipients", "tooLarge",
    "emailNotFound"]

def classed (final : List String) (kind why : String) : SendError :=
  if final.contains kind then .permanent why else .transient why

def methodError (method kind : String) : SendError :=
  classed methodErrorsARetryCannotChange kind s!"the JMAP server answered {kind} to {method}"

/-- Whether one of the newest mails of Sent carries the approval. -/
def alreadyAnswered (mailboxes : Mailboxes) (post : Post) (delivery : Delivery)
    (eventId : String) : Except SendError Bool := do
  delivery.listed
  let page := (post.sent mailboxes).take Jmap.queryPage
  if page.isEmpty then return false
  else
    delivery.read
    return page.any fun letter => letter.approval == some eventId

/-- What the server makes of the batch: the submission is one of the mail created before it. -/
def Post.executes (post : Post) (mailboxes : Mailboxes) (delivery : Delivery) (eventId : String) :
    Post :=
  match delivery.email, delivery.submission with
  | .created, .created =>
    ⟨⟨some eventId, landed mailboxes⟩ :: post.letters, eventId :: post.submissions⟩
  | .created, _ => { post with letters := ⟨some eventId, [mailboxes.draftsId]⟩ :: post.letters }
  | _, _ => post

def Post.withoutDraft (post : Post) (delivery : Delivery) : Post :=
  if delivery.destroyed then { post with letters := post.letters.tail } else post

/-- The batch that sends, and what is concluded from its answer. -/
def submit (mailboxes : Mailboxes) (post : Post) (delivery : Delivery) (eventId postedAs : String) :
    Post × Except SendError Sent :=
  let executed := post.executes mailboxes delivery eventId
  match delivery.reach with
  | .never why => (post, .error (.transient why))
  | .unanswered why => (executed, .error (.transient why))
  | .answered =>
    match delivery.email, delivery.submission with
    | .failed kind, _ => (executed, .error (methodError "Email/set" kind))
    | .notCreated kind, _ =>
      (executed, .error (.permanent s!"the JMAP server did not create the reply: {kind}"))
    | .created, .failed kind => (executed, .error (methodError "EmailSubmission/set" kind))
    | .created, .created => (executed, .ok ⟨false, some postedAs⟩)
    | .created, .notCreated kind =>
      (executed.withoutDraft delivery, .error (classed refusalsARetryCannotChange kind
        s!"the JMAP server refused the submission: {kind}"))

/-- What goes before the sending: nothing is to be sent, or the reply leaves as an identity. -/
def prepared (mailboxes : Mailboxes) (post : Post) (approved : Approved) (delivery : Delivery) :
    Except SendError (Option String) := do
  delivery.asked
  if ← alreadyAnswered mailboxes post delivery approved.eventId then return none
  else
    let postedAs ← delivery.identity
    let _ ← originalOf delivery.server approved.reply
    return some postedAs

def sendReply (mailboxes : Mailboxes) (post : Post) (approved : Approved) (delivery : Delivery) :
    Post × Except SendError Sent :=
  match prepared mailboxes post approved delivery with
  | .error why => (post, .error why)
  | .ok none => (post, .ok ⟨true, none⟩)
  | .ok (some postedAs) => submit mailboxes post delivery approved.eventId postedAs

/-! ### Runs -/

/-- What happens at the account: an approval is delivered, for the first time or again, or a mail
that no approval sent comes to some mailboxes. -/
inductive MailStep where
  | delivered (approved : Approved) (delivery : Delivery)
  | filed (boxes : List String)

def mailStep (mailboxes : Mailboxes) (post : Post) : MailStep → Post
  | .delivered approved delivery => (sendReply mailboxes post approved delivery).1
  | .filed boxes => { post with letters := ⟨none, boxes⟩ :: post.letters }

/-- A delivery of an approval that was submitted, when its reply in Sent has a page of newer mails
before it. -/
def IsLate (mailboxes : Mailboxes) (eventId : String) (post : Post) : MailStep → Prop
  | .delivered approved _ => approved.eventId = eventId ∧ eventId ∈ post.submissions ∧
      Jmap.queryPage ≤ (post.sent mailboxes).findIdx fun letter => letter.approval == some eventId
  | .filed _ => False

instance (mailboxes : Mailboxes) (eventId : String) (post : Post) (next : MailStep) :
    Decidable (IsLate mailboxes eventId post next) :=
  match next with
  | .delivered _ _ => inferInstanceAs (Decidable (_ ∧ _))
  | .filed _ => inferInstanceAs (Decidable False)

/-- How many deliveries of a run are late. -/
def late (mailboxes : Mailboxes) (eventId : String) : Post → List MailStep → Nat
  | _, [] => 0
  | post, next :: rest =>
    (if IsLate mailboxes eventId post next then 1 else 0) +
      late mailboxes eventId (mailStep mailboxes post next) rest

/-! ### What a delivery does -/

variable {mailboxes : Mailboxes} {post : Post} {approved : Approved} {delivery : Delivery}

theorem sentId_mem_landed : mailboxes.sentId ∈ landed mailboxes := by
  unfold landed
  by_cases same : mailboxes.sentId = mailboxes.draftsId
  · simp [same]
  · simp [same]

/-- What a delivery leaves and answers. -/
inductive Sends (mailboxes : Mailboxes) (post : Post) (eventId : String) :
    Post × Except SendError Sent → Prop where
  | refused (why : SendError) : Sends mailboxes post eventId (post, .error why)
  | drafted (why : SendError) : Sends mailboxes post eventId
      ({ post with letters := ⟨some eventId, [mailboxes.draftsId]⟩ :: post.letters }, .error why)
  | found (isThere : ∃ letter ∈ post.sent mailboxes, letter.approval = some eventId) :
      Sends mailboxes post eventId (post, .ok ⟨true, none⟩)
  | submitted (answer : Except SendError Sent)
      (absent : ∀ letter ∈ (post.sent mailboxes).take Jmap.queryPage,
        letter.approval ≠ some eventId) : Sends mailboxes post eventId
      (⟨⟨some eventId, landed mailboxes⟩ :: post.letters, eventId :: post.submissions⟩, answer)

theorem alreadyAnswered_eq_ok {eventId : String} {already : Bool}
    (answered : alreadyAnswered mailboxes post delivery eventId = .ok already) :
    already = true ↔ ∃ letter ∈ (post.sent mailboxes).take Jmap.queryPage,
      letter.approval = some eventId := by
  unfold alreadyAnswered at answered
  obtain ⟨_, -, looked⟩ := bind_eq_ok.mp answered
  cases isPage : (post.sent mailboxes).take Jmap.queryPage with
  | nil =>
    rw [isPage] at looked
    obtain rfl := Except.ok.inj looked
    simp
  | cons letter rest =>
    rw [isPage] at looked
    obtain ⟨_, -, same⟩ := bind_eq_ok.mp looked
    obtain rfl := Except.ok.inj same
    simp

theorem prepared_eq_ok {sending : Option String}
    (isPrepared : prepared mailboxes post approved delivery = .ok sending) :
    sending = none ↔ ∃ letter ∈ (post.sent mailboxes).take Jmap.queryPage,
      letter.approval = some approved.eventId := by
  unfold prepared at isPrepared
  obtain ⟨_, -, looked⟩ := bind_eq_ok.mp isPrepared
  obtain ⟨already, answered, concluded⟩ := bind_eq_ok.mp looked
  rw [← alreadyAnswered_eq_ok answered]
  cases already with
  | true =>
    obtain rfl := Except.ok.inj concluded
    exact iff_of_true rfl rfl
  | false =>
    obtain ⟨postedAs, -, further⟩ := bind_eq_ok.mp concluded
    obtain ⟨_, -, same⟩ := bind_eq_ok.mp further
    obtain rfl := Except.ok.inj same
    exact iff_of_false nofun nofun

theorem sends_submit {eventId : String} (postedAs : String)
    (absent : ∀ letter ∈ (post.sent mailboxes).take Jmap.queryPage,
      letter.approval ≠ some eventId) :
    Sends mailboxes post eventId (submit mailboxes post delivery eventId postedAs) := by
  unfold submit Post.executes Post.withoutDraft
  cases delivery.reach with
  | never why => exact .refused _
  | unanswered why =>
    cases delivery.email with
    | created =>
      cases delivery.submission with
      | created => exact .submitted _ absent
      | notCreated kind => exact .drafted _
      | failed kind => exact .drafted _
    | notCreated kind => exact .refused _
    | failed kind => exact .refused _
  | answered =>
    cases delivery.email with
    | created =>
      cases delivery.submission with
      | created => exact .submitted _ absent
      | failed kind => exact .drafted _
      | notCreated kind =>
        cases delivery.destroyed with
        | true => exact .refused _
        | false => exact .drafted _
    | notCreated kind => exact .refused _
    | failed kind => exact .refused _

theorem sends_sendReply (mailboxes : Mailboxes) (post : Post) (approved : Approved)
    (delivery : Delivery) :
    Sends mailboxes post approved.eventId (sendReply mailboxes post approved delivery) := by
  unfold sendReply
  cases isPrepared : prepared mailboxes post approved delivery with
  | error why => exact .refused why
  | ok sending =>
    cases sending with
    | none =>
      obtain ⟨letter, onPage, carries⟩ := (prepared_eq_ok isPrepared).mp rfl
      exact .found ⟨letter, List.mem_of_mem_take onPage, carries⟩
    | some postedAs =>
      exact sends_submit postedAs fun letter onPage carries =>
        nomatch (prepared_eq_ok isPrepared).mpr ⟨letter, onPage, carries⟩

/-! ### At most once -/

/-- What was submitted is in Sent. -/
def Landed (mailboxes : Mailboxes) (post : Post) : Prop :=
  ∀ eventId ∈ post.submissions,
    ∃ letter ∈ post.sent mailboxes, letter.approval = some eventId

theorem landed_step (kept : Landed mailboxes post) (next : MailStep) :
    Landed mailboxes (mailStep mailboxes post next) := by
  have grown : ∀ letter, Landed mailboxes { post with letters := letter :: post.letters } := by
    intro letter eventId isSubmitted
    obtain ⟨reply, isSent, carries⟩ := kept eventId isSubmitted
    obtain ⟨isHeld, isIn⟩ := List.mem_filter.mp isSent
    exact ⟨reply, List.mem_filter.mpr ⟨List.mem_cons_of_mem _ isHeld, isIn⟩, carries⟩
  cases next with
  | filed boxes => exact grown _
  | delivered approved delivery =>
    have sends := sends_sendReply mailboxes post approved delivery
    show Landed mailboxes (sendReply mailboxes post approved delivery).1
    generalize sendReply mailboxes post approved delivery = reached at sends
    cases sends with
    | refused why => exact kept
    | drafted why => exact grown _
    | found isThere => exact kept
    | submitted answer absent =>
      intro eventId isSubmitted
      rcases List.mem_cons.mp isSubmitted with rfl | isOld
      · exact ⟨_, List.mem_filter.mpr ⟨List.mem_cons_self,
          List.contains_iff_mem.mpr sentId_mem_landed⟩, rfl⟩
      · exact grown _ eventId isOld

theorem count_step (kept : Landed mailboxes post) (next : MailStep) (eventId : String) :
    max 1 ((mailStep mailboxes post next).submissions.count eventId) ≤
      max 1 (post.submissions.count eventId) +
        if IsLate mailboxes eventId post next then 1 else 0 := by
  cases next with
  | filed boxes => exact Nat.le_add_right _ _
  | delivered approved delivery =>
    have sends := sends_sendReply mailboxes post approved delivery
    show max 1 ((sendReply mailboxes post approved delivery).1.submissions.count eventId) ≤ _
    generalize sendReply mailboxes post approved delivery = reached at sends
    cases sends with
    | refused why => exact Nat.le_add_right _ _
    | drafted why => exact Nat.le_add_right _ _
    | found isThere => exact Nat.le_add_right _ _
    | submitted answer absent =>
      rw [List.count_cons]
      by_cases same : approved.eventId = eventId
      · subst same
        by_cases isOld : approved.eventId ∈ post.submissions
        · -- The reply that was submitted is in Sent, so it is not on the page that was read.
          obtain ⟨letter, isSent, carries⟩ := kept _ isOld
          have isLate : IsLate mailboxes approved.eventId post (.delivered approved delivery) := by
            refine ⟨rfl, isOld, Nat.le_of_not_lt fun early => ?_⟩
            have within := List.findIdx_lt_length_of_exists
              (p := fun letter : Letter => letter.approval == some approved.eventId)
              ⟨letter, isSent, beq_iff_eq.mpr carries⟩
            have found := List.findIdx_getElem (w := within)
            exact absent _ (List.mem_take_iff_getElem.mpr ⟨_, lt_min early within, rfl⟩)
              (beq_iff_eq.mp found)
          rw [if_pos isLate]
          split <;> omega
        · rw [List.count_eq_zero_of_not_mem isOld]
          split <;> omega
      · rw [if_neg (by simpa using same)]
        exact Nat.le_add_right _ _

/-- In every run of deliveries, however they are cut and whatever is refused, an approved reply is
submitted at most once, and once more for each delivery that finds it buried in Sent. -/
theorem submitted_once (mailboxes : Mailboxes) (steps : List MailStep) (eventId : String) :
    (run (mailStep mailboxes) .start steps).submissions.count eventId ≤
      1 + late mailboxes eventId .start steps := by
  have counted : ∀ post, Landed mailboxes post →
      max 1 ((run (mailStep mailboxes) post steps).submissions.count eventId) ≤
        max 1 (post.submissions.count eventId) + late mailboxes eventId post steps := by
    induction steps with
    | nil => exact fun post _ => le_rfl
    | cons next rest inductionHypothesis =>
      intro post kept
      have after := inductionHypothesis _ (landed_step kept next)
      have stepped := count_step kept next eventId
      rw [run_cons]
      unfold late
      omega
  exact (le_max_right _ _).trans (counted .start fun _ isSubmitted => nomatch isSubmitted)

/-! ### Posted only if it left -/

/-- Whatever is answered as sent was submitted, in every run from an empty account on. -/
def AnswersTruly (mailboxes : Mailboxes) : Prop :=
  ∀ steps approved delivery,
    let reached := sendReply mailboxes (run (mailStep mailboxes) .start steps) approved delivery
    ∀ sent, reached.2 = .ok sent → approved.eventId ∈ reached.1.submissions

/-- What is in Sent was submitted. -/
def Submitted (mailboxes : Mailboxes) (post : Post) : Prop :=
  ∀ letter ∈ post.sent mailboxes, ∀ eventId ∈ letter.approval, eventId ∈ post.submissions

theorem submitted_cons {letter : Letter} (kept : Submitted mailboxes post)
    (isDraft : mailboxes.sentId ∉ letter.boxes ∨ letter.approval = none) :
    Submitted mailboxes { post with letters := letter :: post.letters } := by
  intro other isSent eventId carries
  obtain ⟨isHeld, isIn⟩ := List.mem_filter.mp isSent
  rcases List.mem_cons.mp isHeld with rfl | isOld
  · rcases isDraft with apart | none
    · exact absurd (List.contains_iff_mem.mp isIn) apart
    · rw [none] at carries
      exact nomatch carries
  · exact kept other (List.mem_filter.mpr ⟨isOld, isIn⟩) eventId carries

theorem submitted_step (apart : mailboxes.draftsId ≠ mailboxes.sentId)
    (kept : Submitted mailboxes post) (next : MailStep) :
    Submitted mailboxes (mailStep mailboxes post next) := by
  cases next with
  | filed boxes => exact submitted_cons kept (.inr rfl)
  | delivered approved delivery =>
    have sends := sends_sendReply mailboxes post approved delivery
    show Submitted mailboxes (sendReply mailboxes post approved delivery).1
    generalize sendReply mailboxes post approved delivery = reached at sends
    cases sends with
    | refused why => exact kept
    | drafted why => exact submitted_cons kept (.inl (by simpa using apart.symm))
    | found isThere => exact kept
    | submitted answer absent =>
      intro letter isSent eventId carries
      obtain ⟨isHeld, isIn⟩ := List.mem_filter.mp isSent
      rcases List.mem_cons.mp isHeld with rfl | isOld
      · exact Option.some.inj carries ▸ List.mem_cons_self
      · exact List.mem_cons_of_mem _
          (kept letter (List.mem_filter.mpr ⟨isOld, isIn⟩) eventId carries)

namespace WithoutDrafts

/-- A server that answers the queries for a mail and the reads of one alike. -/
def answering (query read : Json) : SendServer where
  emailByMessageId _ := .ok query
  newestInAccount _ := .ok query
  messageIdsOf _ := .ok read
  emailGet _ := .ok read

theorem originalOf_answering (id : String) (emails : List Json) (reply : ApprovedReply) :
    originalOf (answering (MailStore.queryAnswer (some id).toList) (MailStore.getAnswer emails))
      reply = choose reply (emails.filterMap Jmap.Mail.parse) := by
  have found (query read : Json) : originalOf (answering query read) reply =
      candidatesOf (answering query read) reply ((firstId query).or (firstId query)) >>= fun _ =>
        choose reply ((Jmap.items read "list").filterMap Jmap.Mail.parse) := rfl
  rw [found, MailStore.firstId_queryAnswer, MailStore.items_getAnswer]
  rfl

/-- A delivery whose reply is refused at the submission, and whose draft is not destroyed. -/
def refused : Delivery where
  asked := .ok ()
  listed := .ok ()
  read := .ok ()
  identity := .ok "me@example.org"
  server := answering (MailStore.queryAnswer (some "e1").toList)
    (MailStore.getAnswer [TwoSenders.email "e1" "contact@example.org"])
  reach := .answered
  email := .created
  submission := .notCreated "rateLimit"
  destroyed := false

def approval : Approved := ⟨"a1", TwoSenders.reply⟩

theorem exists_original : ∃ original, originalOf refused.server approval.reply = .ok original := by
  obtain ⟨mail, parsed, isFrom⟩ := @TwoSenders.parse_email "contact@example.org"
    ⟨none, "contact@example.org"⟩ (by decide) "e1"
  unfold refused
  rw [originalOf_answering, List.filterMap_cons_some parsed, List.filterMap_nil]
  refine exists_choose_iff.mpr ⟨mail, List.mem_cons_self, ?_⟩
  unfold isFromRecipient
  rw [isFrom]
  decide

theorem not_answersTruly (same : mailboxes.draftsId = mailboxes.sentId) :
    ¬AnswersTruly mailboxes := by
  intro truly
  obtain ⟨original, found⟩ := exists_original
  have drafted : mailStep mailboxes .start (.delivered approval refused) =
      ⟨[⟨some "a1", [mailboxes.draftsId]⟩], []⟩ := by
    have isPrepared : prepared mailboxes .start approval refused = .ok (some "me@example.org") := by
      unfold prepared
      rw [found]
      rfl
    show (sendReply mailboxes .start approval refused).1 = _
    unfold sendReply
    rw [isPrepared]
    rfl
  have isSent : (Post.mk [⟨some "a1", [mailboxes.draftsId]⟩] []).sent mailboxes =
      [⟨some "a1", [mailboxes.draftsId]⟩] :=
    List.filter_cons_of_pos (by simp [same])
  have isFound : sendReply mailboxes ⟨[⟨some "a1", [mailboxes.draftsId]⟩], []⟩ approval refused =
      (⟨[⟨some "a1", [mailboxes.draftsId]⟩], []⟩, .ok ⟨true, none⟩) := by
    have isPrepared : prepared mailboxes ⟨[⟨some "a1", [mailboxes.draftsId]⟩], []⟩ approval
        refused = .ok none := by
      unfold prepared alreadyAnswered
      rw [isSent]
      rfl
    unfold sendReply
    rw [isPrepared]
  have isSubmitted := truly [.delivered approval refused] approval refused ⟨true, none⟩
  rw [run_cons, run_nil, drafted, isFound] at isSubmitted
  exact absurd (isSubmitted rfl) List.not_mem_nil

end WithoutDrafts

theorem answersTruly_iff (mailboxes : Mailboxes) :
    AnswersTruly mailboxes ↔ mailboxes.draftsId ≠ mailboxes.sentId := by
  refine ⟨fun truly same => WithoutDrafts.not_answersTruly same truly,
    fun apart steps approved delivery => ?_⟩
  have kept : Submitted mailboxes (run (mailStep mailboxes) .start steps) :=
    run_invariant (Submitted mailboxes) (fun _ next kept => submitted_step apart kept next)
      (fun _ isSent => absurd isSent List.not_mem_nil) steps
  have sends := sends_sendReply mailboxes (run (mailStep mailboxes) .start steps) approved delivery
  dsimp only
  intro sent answered
  generalize sendReply mailboxes _ approved delivery = reached at sends answered ⊢
  cases sends with
  | refused why => exact nomatch answered
  | drafted why => exact nomatch answered
  | found isThere =>
    obtain ⟨letter, isSent, carries⟩ := isThere
    exact kept letter isSent _ carries
  | submitted answer absent => exact List.mem_cons_self

end Twalk.Collector.Outbound
