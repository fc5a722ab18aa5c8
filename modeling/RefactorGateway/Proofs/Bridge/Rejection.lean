import RefactorGateway.Proofs.Bridge.Envelope
import RefactorGateway.Proofs.Text.Lossy
/-!
# What is told of a rejection

A reply that rejects an operation is told by its words, if it has any that can be read, and else by
its status.  The words are read all at once: a message is only told if the members beside it fit as
well.

## Main Definitions

* `NoObject`: a text is no JSON object
* `plainRejection`: what a body says next to a status that is no success, read without looking at
  blanks first
* `FitsEnvelope`: the members of an object that are read as the words of a rejection fit

## Main Statements

* `rejection_eq_plainRejection`: looking at blanks first makes no difference
* `rejection_of_noObject`, `rejection_of_words`, `rejection_of_misfit`: what is told next to a
  status that is no success
* `denial_of_words`, `denial_of_misfit`: what is told of a denial next to a status of success
* `rejection_falls_back`: what is told of a rejection without a message
* `message_told_if_fits`: when the message of a rejection is told
* `message_beside_list_lost`: a message that is not told

## Design Notes

A body of nothing but blanks is taken for an empty one by a wider notion of blanks than that of
JSON.  That the two never come to different failures rests on the reader: every text that it accepts
has a character that is a blank in neither sense.
-/

namespace RefactorGateway.Bridge

open Http
open Json (Document Members.get?)

/-! ### Bodies that are no object -/

/-- A text is blank, no JSON, or JSON other than an object. -/
def NoObject (text : String) : Prop :=
  Text.allBlank text = true ∨ (∃ problem, Json.read text = .error problem) ∨
    ∃ value, Json.read text = .ok value ∧ ∀ members, value ≠ .object members

/-- What a body says next to a status that is no success, read without looking at blanks first. -/
def plainRejection (status : Nat) (body : String) : Failure :=
  match Json.read body with
  | .ok (.object members) =>
    match Envelope.shape.decodeMembers members with
    | .ok e => .application (e.error.getD (Failure.statusMessage status)) e.details
    | .error _ => .ofStatus status
  | _ => .ofStatus status

/-- A text of nothing but blanks is no JSON. -/
theorem exists_read_eq_error {text : String} (blank : Text.allBlank text = true) :
    ∃ problem, Json.read text = .error problem := by
  unfold Json.read
  cases read : Document.read text with
  | error problem => exact ⟨problem, rfl⟩
  | ok d =>
    rw [Json.not_allBlank_of_read read] at blank
    cases blank

/-- A blank body comes to the status alone, as any other body does that is no JSON. -/
theorem rejection_eq_plainRejection (status : Nat) (body : String) :
    rejection status body = plainRejection status body := by
  unfold rejection
  split
  · next blank =>
    obtain ⟨problem, unreadable⟩ := exists_read_eq_error blank
    rw [plainRejection, unreadable]
  · rfl

theorem rejection_of_noObject {status : Nat} {body : String} (other : NoObject body) :
    rejection status body = .ofStatus status := by
  rw [rejection_eq_plainRejection, plainRejection]
  rcases other with blank | ⟨problem, unreadable⟩ | ⟨value, readable, no_object⟩
  · obtain ⟨problem, unreadable⟩ := exists_read_eq_error blank
    rw [unreadable]
  · rw [unreadable]
  · rw [readable]
    cases value with
    | object members => exact absurd rfl (no_object members)
    | null | bool _ | number _ | string _ | array _ => rfl

/-! ### Objects -/

variable {reply : Reply} {members : List (String × Json)} {error details : Option String}

/-- The members of an object that is read of a text have distinct names. -/
theorem HasObject.nodup (object : HasObject reply members) : (members.map (·.1)).Nodup := by
  rw [HasObject, Json.read] at object
  cases read : Document.read (bodyText reply) with
  | error problem =>
    rw [read] at object
    cases object
  | ok d =>
    rw [read] at object
    cases d with
    | object written =>
      cases object
      exact (Json.Members.ordered_sorted _).nodup
    | null | bool _ | numeral _ | string _ | array _ => cases object

/-- The members of an object that are read as the words of a rejection fit. -/
def FitsEnvelope (members : List (String × Json)) : Prop :=
  FlagFits members ∧ (∃ error, Words "error" members error) ∧
    ∃ details, Words "details" members details

theorem flagFits_iff :
    FlagFits members ↔ ∃ b, (Members.get? "success" members).getD (.bool false) = .bool b := by
  rw [FlagFits]
  cases Members.get? "success" members <;> simp

theorem Denies.flagFits (denied : Denies members) : FlagFits members := .inr ⟨false, denied⟩

/-- An object whose members fit is read as what they say. -/
theorem Envelope.exists_decodeMembers (distinct : (members.map (·.1)).Nodup)
    (flag : FlagFits members) (error_words : Words "error" members error)
    (details_words : Words "details" members details) :
    ∃ success, Envelope.shape.decodeMembers members = .ok ⟨success, error, details⟩ := by
  obtain ⟨success, flag⟩ := flagFits_iff.1 flag
  exact ⟨success, (decodeMembers_eq_ok_iff distinct).2 ⟨flag, error_words, details_words⟩⟩

/-- No envelope is read of an object of which a member does not fit. -/
theorem Envelope.exists_mismatch (distinct : (members.map (·.1)).Nodup)
    (misfit : ¬ FitsEnvelope members) :
    ∃ mismatch, Envelope.shape.decodeMembers members = .error mismatch := by
  cases decoded : Envelope.shape.decodeMembers members with
  | error mismatch => exact ⟨mismatch, rfl⟩
  | ok envelope =>
    obtain ⟨flag, error, details⟩ := (decodeMembers_eq_ok_iff distinct).1 decoded
    exact absurd ⟨flagFits_iff.2 ⟨_, flag⟩, ⟨_, error⟩, _, details⟩ misfit

/-- Next to a status that is no success, an object whose members fit comes to its words, with the
status in place of a message if there is none. -/
theorem rejection_of_words (status : Nat) (object : HasObject reply members)
    (flag : FlagFits members) (error_words : Words "error" members error)
    (details_words : Words "details" members details) :
    rejection status (bodyText reply) =
      .application (error.getD (Failure.statusMessage status)) details := by
  obtain ⟨success, decoded⟩ :=
    Envelope.exists_decodeMembers object.nodup flag error_words details_words
  rw [HasObject] at object
  rw [rejection_eq_plainRejection, plainRejection, object]
  simp only [decoded]

/-- If a member does not fit, the words are lost and the status is told. -/
theorem rejection_of_misfit (status : Nat) (object : HasObject reply members)
    (misfit : ¬ FitsEnvelope members) :
    rejection status (bodyText reply) = .ofStatus status := by
  obtain ⟨mismatch, refused⟩ := Envelope.exists_mismatch object.nodup misfit
  rw [HasObject] at object
  rw [rejection_eq_plainRejection, plainRejection, object]
  simp only [refused]

/-- A denial whose members fit comes to its words. -/
theorem denial_of_words (distinct : (members.map (·.1)).Nodup) (denied : Denies members)
    (error_words : Words "error" members error) (details_words : Words "details" members details) :
    denial members = .application (error.getD "Unknown error") details := by
  obtain ⟨success, decoded⟩ :=
    Envelope.exists_decodeMembers distinct denied.flagFits error_words details_words
  simp only [denial, decoded]

/-- If a member of a denial does not fit, its words are lost. -/
theorem denial_of_misfit (distinct : (members.map (·.1)).Nodup)
    (misfit : ¬ FitsEnvelope members) : denial members = .application "Unknown error" none := by
  obtain ⟨mismatch, refused⟩ := Envelope.exists_mismatch distinct misfit
  simp only [denial, refused]
  rfl

/-! ### Calls -/

variable {c : Client} {e : Endpoint} {r : e.Request}

theorem result_call_of_rejection (usable : c.config.Usable e)
    (other : ¬ isSuccess reply.status = true) :
    (c.call e r (.answered reply)).result =
      .error (rejection reply.status (bodyText reply)) := by
  rw [result_call_of_usable usable, receive_answered, conclude_of_not_success other]

theorem result_call_of_denial (usable : c.config.Usable e) (success : isSuccess reply.status = true)
    (object : HasObject reply members) (denied : Denies members) :
    (c.call e r (.answered reply)).result = .error (denial members) := by
  rw [result_call_of_usable usable, receive_answered, conclude_of_denied success object denied]

/-- A body that is the text of a document stands for the document. -/
theorem stands_text {d : Document} {levels : Nat} (readable : d.Readable levels)
    (within : levels ≤ Json.nestingLimit) (status : Nat) :
    Stands (bodyText ⟨status, Text.toBytes d.text⟩) d := by
  rw [bodyText, Text.ofBytes_toBytes]
  exact .inr (Document.read_text (readable.mono within))

/-- The text of an object is read as the object. -/
theorem hasObject_text {members : List (String × Document)} {levels : Nat}
    (readable : (Document.object members).Readable levels) (within : levels ≤ Json.nestingLimit)
    (status : Nat) :
    HasObject ⟨status, Text.toBytes (Document.object members).text⟩
      (Json.Members.sorted (Document.memberValues members)) :=
  hasObject_of_stands (stands_text readable within status)

/-- **What is told of a rejection without a message.**  Let a request be sent to an operation.  Next
to a status that is no success, a body that is blank, no JSON, or JSON other than an object is told
as the status and without details; an object that has no message, and whose other members fit, is
told as the status and with its details.  Next to a status of success, an object that denies success
and has no message is told as an unknown error, with its details.  And taking a blank body for an
empty one before it is read as JSON makes no difference for any status and any body. -/
theorem rejection_falls_back :
    (∀ (c : Client) (e : Endpoint) (r : e.Request) (reply : Reply), c.config.Usable e →
      (¬ isSuccess reply.status →
        (NoObject (bodyText reply) →
          (c.call e r (.answered reply)).result =
            .error ⟨.application, "HTTP " ++ toString reply.status, none⟩) ∧
        ∀ members details, HasObject reply members → FlagFits members →
          Words "error" members none → Words "details" members details →
          (c.call e r (.answered reply)).result =
            .error ⟨.application, "HTTP " ++ toString reply.status, details⟩) ∧
      (isSuccess reply.status →
        ∀ members details, HasObject reply members → Denies members →
          Words "error" members none → Words "details" members details →
          (c.call e r (.answered reply)).result =
            .error ⟨.application, "Unknown error", details⟩)) ∧
      ∀ status body, rejection status body = plainRejection status body := by
  refine ⟨fun c e r reply usable => ⟨fun other => ⟨fun no_object => ?_, ?_⟩, ?_⟩,
    rejection_eq_plainRejection⟩
  · rw [result_call_of_rejection usable other, rejection_of_noObject no_object]
    rfl
  · intro members details object flag no_message details_words
    rw [result_call_of_rejection usable other,
      rejection_of_words reply.status object flag no_message details_words]
    rfl
  · intro success members details object denied no_message details_words
    rw [result_call_of_denial usable success object denied,
      denial_of_words object.nodup denied no_message details_words]
    rfl

/-- A body of blanks that JSON does not know, and objects with nothing but details beside members
that no rejection has. -/
theorem unavailable_falls_back :
    let client := Client.new ⟨Config.defaultBaseUrl, none, Config.defaultTimeout⟩
    let result (reply : Reply) := (client.call .health () (.answered reply)).result
    let blanks : Reply := ⟨502, Text.toBytes "\u00a0\u2003"⟩
    let document : Document := .object
      [("success", .bool false), ("retry", .array [.null]), ("error", .null),
        ("details", .string "indexing")]
    let members : List (String × Json) :=
      [("details", .string "indexing"), ("error", .null), ("retry", .array [.null]),
        ("success", .bool false)]
    let object (status : Nat) : Reply := ⟨status, Text.toBytes document.text⟩
    (client.config.Usable .health ∧ NoObject (bodyText blanks) ∧
      HasObject (object 503) members ∧ HasObject (object 200) members ∧ Denies members ∧
      Words "error" members none ∧ Words "details" members (some "indexing")) ∧
      result blanks = .error ⟨.application, "HTTP 502", none⟩ ∧
      result (object 503) = .error ⟨.application, "HTTP 503", some "indexing"⟩ ∧
      result (object 200) = .error ⟨.application, "Unknown error", some "indexing"⟩ := by
  intro client result blanks document members object
  have usable : client.config.Usable .health := by decide +kernel
  have blank : NoObject (bodyText blanks) := by
    rw [bodyText, Text.ofBytes_toBytes]
    exact .inl (by decide +kernel)
  have readable : document.Readable (0 + 1 + 1) := by simp [document]
  have read : ∀ status, HasObject (object status) members := hasObject_text readable (by decide)
  have denied : Denies members := by simp [Denies, members]
  have no_message : Words "error" members none := .inr ⟨rfl, by simp [members]⟩
  have details : Words "details" members (some "indexing") := .inl (by simp [members])
  have told := rejection_falls_back.1 client .health ()
  have gateway : "HTTP 502" = "HTTP " ++ toString 502 := by decide +kernel
  have unavailable : "HTTP 503" = "HTTP " ++ toString 503 := by decide +kernel
  refine ⟨⟨usable, blank, read 503, read 200, denied, no_message, details⟩, ?_, ?_, ?_⟩
  · rw [gateway]
    exact ((told blanks usable).1 nofun).1 blank
  · rw [unavailable]
    exact ((told (object 503) usable).1 nofun).2 members (some "indexing") (read 503)
      denied.flagFits no_message details
  · exact (told (object 200) usable).2 rfl members (some "indexing") (read 200) denied no_message
      details

/-- **When the message of a rejection is told.**  Let a request be sent to an operation, and let the
body of the reply be an object with a message that rejects the operation, by its status or by a
denial of success.  If the details are missing, null or a text, and the flag is missing or a truth
value, the call fails with the message and the details.  If not, neither is told: the call fails
with the status in their place, or next to a status of success with an unknown error. -/
theorem message_told_if_fits (c : Client) (e : Endpoint) (r : e.Request) (reply : Reply)
    (members : List (String × Json)) (message : String) (usable : c.config.Usable e)
    (object : HasObject reply members)
    (given : Members.get? "error" members = some (.string message))
    (rejects : ¬ isSuccess reply.status ∨ Denies members) :
    (∀ details, FlagFits members → Words "details" members details →
      (c.call e r (.answered reply)).result = .error ⟨.application, message, details⟩) ∧
      (¬ (FlagFits members ∧ ∃ details, Words "details" members details) →
        (c.call e r (.answered reply)).result =
          .error ⟨.application, if isSuccess reply.status then "Unknown error"
            else "HTTP " ++ toString reply.status, none⟩) := by
  have error_words : Words "error" members (some message) := .inl given
  constructor
  · intro details flag details_words
    by_cases success : isSuccess reply.status = true
    · have denied := rejects.resolve_left (not_not_intro success)
      rw [result_call_of_denial usable success object denied,
        denial_of_words object.nodup denied error_words details_words]
      rfl
    · rw [result_call_of_rejection usable success,
        rejection_of_words reply.status object flag error_words details_words]
      rfl
  · intro unfit
    have misfit : ¬ FitsEnvelope members := fun ⟨flag, _, details⟩ => unfit ⟨flag, details⟩
    by_cases success : isSuccess reply.status = true
    · have denied := rejects.resolve_left (not_not_intro success)
      rw [result_call_of_denial usable success object denied,
        denial_of_misfit object.nodup misfit, if_pos success]
      rfl
    · rw [result_call_of_rejection usable success,
        rejection_of_misfit reply.status object misfit, if_neg success]
      rfl

/-- A denial next to a status of success, once with details that are a text and once with details
that are an object. -/
theorem denial_with_details_told :
    let client := Client.new ⟨Config.defaultBaseUrl, none, Config.defaultTimeout⟩
    let members (details : Json) : List (String × Json) :=
      [("details", details), ("error", .string "Element not found"), ("success", .bool false)]
    let document (details : Document) : Document := .object
      [("success", .bool false), ("error", .string "Element not found"), ("details", details)]
    let reply (details : Document) : Reply := ⟨200, Text.toBytes (document details).text⟩
    let result (details : Document) := (client.call .health () (.answered (reply details))).result
    let line : Document := .object [("line", .string "3")]
    (client.config.Usable .health ∧
      HasObject (reply (.string "line 3")) (members (.string "line 3")) ∧
      HasObject (reply line) (members line.value) ∧ ∀ details, Denies (members details)) ∧
      result (.string "line 3") =
        .error ⟨.application, "Element not found", some "line 3"⟩ ∧
      result line = .error ⟨.application, "Unknown error", none⟩ := by
  intro client members document reply result line
  have usable : client.config.Usable .health := by decide +kernel
  have readable (details : Document) (readable : details.Readable 1) :
      (document details).Readable (1 + 1) := by
    simp [document, readable]
  have text : HasObject (reply (.string "line 3")) (members (.string "line 3")) :=
    hasObject_text (readable _ (by simp)) (by decide) 200
  have object : HasObject (reply line) (members line.value) :=
    hasObject_text (readable _ (by simp [line])) (by decide) 200
  have denied : ∀ details, Denies (members details) := by simp [Denies, members]
  have unfit : ¬ ∃ details, Words "details" (members line.value) details := by
    rintro ⟨details, given | ⟨-, null⟩⟩
    · cases details <;> simp [members, line, Document.value] at given
    · simp [members, line, Document.value] at null
  refine ⟨⟨usable, text, object, denied⟩, ?_, ?_⟩
  · exact (message_told_if_fits client .health () _ _ "Element not found" usable text
      (by simp [members]) (.inr (denied _))).1 (some "line 3") (denied _).flagFits
      (.inl (by simp [members]))
  · exact (message_told_if_fits client .health () _ _ "Element not found" usable object
      (by simp [members]) (.inr (denied _))).2 fun fits => unfit fits.2

/-- A rejection with a message and a list of details.  The message is a text, and it is not told. -/
theorem message_beside_list_lost :
    let client := Client.new ⟨Config.defaultBaseUrl, none, Config.defaultTimeout⟩
    let document : Document := .object
      [("error", .string "Element not found"), ("details", .array [.string "line 3"])]
    let members : List (String × Json) :=
      [("details", .array [.string "line 3"]), ("error", .string "Element not found")]
    let reply : Reply := ⟨404, Text.toBytes document.text⟩
    let result := (client.call .health () (.answered reply)).result
    client.config.Usable .health ∧ HasObject reply members ∧ ¬ isSuccess reply.status ∧
      Members.get? "error" members = some (.string "Element not found") ∧
      result = .error ⟨.application, "HTTP 404", none⟩ ∧
      ¬ ∃ details, result = .error ⟨.application, "Element not found", details⟩ := by
  intro client document members reply result
  have usable : client.config.Usable .health := by decide +kernel
  have other : ¬ isSuccess reply.status = true := nofun
  have readable : document.Readable (0 + 1 + 1) := by simp [document]
  have object : HasObject reply members := hasObject_text readable (by decide) 404
  have misfit : ¬ FitsEnvelope members := by
    rintro ⟨-, -, details, given | ⟨-, null⟩⟩
    · cases details <;> simp [members] at given
    · simp [members] at null
  have status : "HTTP 404" = "HTTP " ++ toString 404 := by decide +kernel
  have told : result = .error ⟨.application, "HTTP 404", none⟩ := by
    rw [show result = _ from result_call_of_rejection usable other,
      rejection_of_misfit reply.status object misfit, status]
    rfl
  refine ⟨usable, object, other, by simp [members], told, ?_⟩
  rintro ⟨details, kept⟩
  rw [told] at kept
  simp at kept

end RefactorGateway.Bridge
