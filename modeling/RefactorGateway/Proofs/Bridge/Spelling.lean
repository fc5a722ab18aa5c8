import RefactorGateway.Proofs.Bridge.Rejection
import RefactorGateway.Proofs.Json.Reordering
import RefactorGateway.Proofs.Wire.Listing
import RefactorGateway.Proofs.Wire.Records
/-!
# Other spellings of a reply

A reply is read by what its body stands for.  The order of the members of an object makes no
difference to that, for an error as little as for a response.  The records inside a response may
also be written as lists, and the response itself may not.

## Main Definitions

* `Endpoint.listing?`: the member of a response that is a list of records
* `Endpoint.Relists`: a member of a response with some of its records written as lists

## Main Statements

* `conclude_congr`: a reply comes to what its status and the value of its body come to
* `call_reordered`: the order of members makes no difference
* `call_relisted`: records inside a response may be written as lists, the response itself may not

## Design Notes

That a list is refused as a whole response is up to the two places that look for an object.  The
reader of the record would take the list, and `call_relisted` says so.
-/

namespace RefactorGateway.Bridge

open Http
open Json (Document)
open Json.Members (sorted)
open Wire (Shape Fields Codec InOrder Relisted MembersRel)

variable {c : Client} {e : Endpoint} {r : e.Request} {reply reply' : Reply}

/-! ### Members in another order -/

/-- A body that is the text of a document spells the document. -/
theorem spells_text (d : Document) (status : Nat) :
    Json.Spells (bodyText ⟨status, Text.toBytes d.text⟩) d :=
  .inl (Text.ofBytes_toBytes d.text)

/-- A reply comes to what its status and the value of its body come to. -/
theorem conclude_congr (status : reply'.status = reply.status)
    (value : Json.read (bodyText reply') = Json.read (bodyText reply)) :
    e.conclude reply' = e.conclude reply := by
  simp only [Endpoint.conclude, readResponse, rejection_eq_plainRejection, plainRejection, status,
    value]

/-- **The order of members.**  Let two replies have the same status, and let their bodies stand for
two documents that only differ in the order of the members of objects, at any depth.  If no object
has two members of one name, every call comes to the same result with the one as with the other. -/
theorem call_reordered (c : Client) (e : Endpoint) (r : e.Request) (reply reply' : Reply)
    (d d' : Document) (distinct : d.Distinct) (reordered : d.Reordered d')
    (status : reply'.status = reply.status) (stands : Stands (bodyText reply) d)
    (spells : Json.Spells (bodyText reply') d') :
    (c.call e r (.answered reply')).result = (c.call e r (.answered reply)).result := by
  have read := read_of_stands stands
  have read' := spells.read (reordered.readable (Document.readable_of_read read))
  have value : Json.read (bodyText reply') = Json.read (bodyText reply) := by
    rw [Json.read, Json.read, read, read']
    exact congrArg Except.ok (reordered.value_eq distinct)
  by_cases usable : c.config.Usable e
  · rw [result_call_of_usable usable, result_call_of_usable usable, receive_answered,
      receive_answered, conclude_congr status value]
  · rw [result_call_of_not_usable usable, result_call_of_not_usable usable]

/-- A reply to a rename, of which the members and those of its change are put into another order. -/
theorem rename_reordered :
    let client := Client.new ⟨Config.defaultBaseUrl, none, Config.defaultTimeout⟩
    let request : RenameRequest := ⟨"/work", "app.py", 3, 5, "g", true, false, false⟩
    let result (status : Nat) (d : Document) :=
      (client.call .rename request (.answered ⟨status, Text.toBytes d.text⟩)).result
    let texts : List (String × Document) :=
      [("file", .string "a.py"), ("oldText", .string "f"), ("newText", .string "g")]
    let change : Document := .object (texts ++ [("line", .ofNat 3)])
    let change' : Document := .object (("line", .ofNat 3) :: texts)
    let members (change : Document) : List (String × Document) :=
      [("changes", .array [change]), ("usagesUpdated", .ofNat 1)]
    let document : Document := .object (members change ++ [("filesModified", .ofNat 1)])
    let document' : Document := .object (("filesModified", .ofNat 1) :: members change')
    let response : RenameResponse := ⟨true, [⟨"a.py", 3, "f", "g"⟩], 1, 1⟩
    document.Distinct ∧ document.Reordered document' ∧
      (∀ status, result status document' = result status document) ∧
      result 200 document' = .ok response := by
  intro client request result texts change change' members document document' response
  have usable : client.config.Usable .rename := by decide +kernel
  have one : (Json.Numeral.ofNat 1).isFinite = true := Codec.isFinite_ofNat (by decide)
  have three : (Json.Numeral.ofNat 3).isFinite = true := Codec.isFinite_ofNat (by decide)
  have readable : document.Readable (0 + 1 + 1 + 1) := by
    simp [document, members, change, texts, Document.ofNat, one, three]
  have change_distinct : change.Distinct := by
    refine .object (by decide) ?_
    simp [texts, Document.ofNat, Document.Distinct.string, Document.Distinct.numeral]
  have distinct : document.Distinct := by
    refine .object (by decide) ?_
    have changes : (Document.array [change]).Distinct := .array (by simp [change_distinct])
    simp [members, Document.ofNat, changes, Document.Distinct.numeral]
  have moved : change.Reordered change' := .members (List.perm_append_singleton _ texts)
  have reordered : document.Reordered document' :=
    .trans (.members (List.perm_append_singleton _ (members change)))
      (@Document.Reordered.member [_] _ _ _ _ (@Document.Reordered.item [] [] _ _ moved))
  have stands := stands_text readable (by decide)
  have same : ∀ status, result status document' = result status document := fun status =>
    call_reordered client .rename request _ _ _ _ distinct reordered rfl (stands status)
      (spells_text document' status)
  have returned : result 200 document = .ok response :=
    result_call_of_returns ⟨usable, _, _, rfl, rfl, hasObject_of_stands (stands 200),
      fun denied => Option.some_ne_none _ denied.symm, rfl⟩
  exact ⟨distinct, reordered, same, (same 200).trans returned⟩

/-! ### Records written as lists -/

/-- The member of a response that is a list of records, by its name and with their type. -/
def Endpoint.listing? : Endpoint → Option (String × WireRecord)
  | .projects => some ("projects", .projectInfo)
  | .rename | .move | .inline | .changeSignature => some ("changes", .fileChange)
  | .safeDelete | .findUsages => some ("usages", .usageInfo)
  | .health | .extractMethod | .extractVariable => none

/-- A member of a response is another one, or some of the records in it are written as lists. -/
inductive Endpoint.Relists (e : Endpoint) (name : String) : Document → Document → Prop
  | same (d : Document) : Relists e name d d
  | records {w : WireRecord} {items items' : List Document} (listing : e.listing? = some (name, w))
    (relisted : List.Forall₂ (Relisted w.shape.slots) items items') :
    Relists e name (.array items) (.array items')

/-- Records that are listed in a response have nothing in them that nests. -/
theorem Endpoint.faithful_listing {name : String} {w : WireRecord}
    (listing : e.listing? = some (name, w)) : w.shape.Faithful 0 := by
  cases e with
  | projects =>
    cases listing
    exact ProjectInfo.faithful
  | rename | move | inline | changeSignature =>
    cases listing
    exact FileChange.faithful
  | safeDelete | findUsages =>
    cases listing
    exact UsageInfo.faithful
  | health | extractMethod | extractVariable => cases listing

/-- Whatever is read of a member of a response is read with records in it written as lists. -/
theorem Endpoint.readsAs_of_relists {name : String} {d d' : Document}
    (relists : e.Relists name d d') : e.response.fields.ReadsAs name d.value d'.value := by
  cases relists with
  | same => exact Fields.readsAs_refl _ _ _
  | records listing relisted =>
    have reads := Shape.readsAs_list (faithful_listing listing) relisted
    cases e with
    | projects =>
      cases listing
      exact ⟨nofun, fun _ => reads, trivial⟩
    | rename | move =>
      cases listing
      exact ⟨nofun, fun _ => reads, nofun, nofun, trivial⟩
    | inline | changeSignature =>
      cases listing
      exact ⟨nofun, fun _ => reads, nofun, trivial⟩
    | safeDelete =>
      cases listing
      exact ⟨nofun, nofun, nofun, fun _ => Codec.readsAs_option nofun nofun reads, trivial⟩
    | findUsages =>
      cases listing
      exact ⟨nofun, nofun, fun _ => reads, nofun, trivial⟩
    | health | extractMethod | extractVariable => cases listing

/-- Records that are written as lists nest brackets no deeper. -/
theorem Endpoint.Relists.readable {name : String} {d d' : Document} {levels : Nat}
    (relists : e.Relists name d d') (readable : d.Readable levels) : d'.Readable levels := by
  cases relists with
  | same => exact readable
  | @records w items items' listing relisted =>
    cases levels with
    | zero => exact readable.elim
    | succ levels =>
      have defaults : ∀ slot ∈ w.shape.slots, ∀ d ∈ slot.default, d.Readable (levels - 1) :=
        Fields.readable_slots (faithful_listing listing).fields (Nat.zero_le _)
      exact Wire.forall_mem_of_forall₂ relisted (fun _ _ first => first.readable defaults) readable

/-- A response is read of an object as well if some of the records in it are written as lists. -/
theorem Endpoint.decodeMembers_of_relists {members members' : List (String × Document)}
    {response : e.Response} (relists : MembersRel e.Relists members members')
    (decoded : e.response.decodeMembers (sorted (Document.memberValues members)) = .ok response) :
    e.response.decodeMembers (sorted (Document.memberValues members')) = .ok response :=
  relists.decodeMembers (fun _ _ _ => readsAs_of_relists) decoded

/-- Written as a list, no member turns into a denial of success. -/
theorem not_denies_of_relists {members members' : List (String × Document)}
    (relists : MembersRel e.Relists members members')
    (accepted : ¬ Denies (sorted (Document.memberValues members))) :
    ¬ Denies (sorted (Document.memberValues members')) := by
  intro denied
  rw [Denies, Wire.get?_sorted_memberValues] at accepted denied
  have flag := relists.rel_lastMember? "success"
  generalize Wire.lastMember? "success" members = found at flag accepted
  generalize Wire.lastMember? "success" members' = found' at flag denied
  cases flag with
  | none => cases denied
  | some flag =>
    cases flag with
    | same => exact accepted denied
    | records listing relisted => cases denied

theorem returns_of_relists {members members' : List (String × Document)} {response : e.Response}
    (returns : Returns c.config e (.answered reply) response)
    (stands : Stands (bodyText reply) (.object members))
    (relists : MembersRel e.Relists members members') (success : isSuccess reply'.status)
    (spells : Json.Spells (bodyText reply') (.object members')) :
    Returns c.config e (.answered reply') response := by
  obtain ⟨usable, _, values, ⟨⟩, -, object, accepted, decoded⟩ := returns
  obtain rfl : sorted (Document.memberValues members) = values := by
    have object' := hasObject_of_stands stands
    rw [HasObject, object] at object'
    cases object'
    rfl
  have readable : (Document.object members').Readable Json.nestingLimit :=
    relists.forall_mem (fun _ _ _ relists => relists.readable)
      (Document.readable_of_read (read_of_stands stands))
  exact ⟨usable, reply', _, rfl, success, hasObject_of_stands (.inr (spells.read readable)),
    not_denies_of_relists relists accepted, Endpoint.decodeMembers_of_relists relists decoded⟩

/-! ### Responses written as lists -/

/-- A body that stands for a list is no object. -/
theorem noObject_of_stands {items : List Document}
    (stands : Stands (bodyText reply) (.array items)) :
    ∃ value, Json.read (bodyText reply) = .ok value ∧ ∀ members, value ≠ .object members := by
  refine ⟨(Document.array items).value, ?_, nofun⟩
  rw [Json.read, read_of_stands stands]
  rfl

/-- The list of the values of a response is one that the reader of the response takes. -/
theorem Endpoint.decode_of_relisted {response : e.Response} {items : List Document}
    (relisted : Relisted e.response.slots (e.response.encode response) (.array items)) :
    e.response.decode (Document.array items).value = .ok response :=
  Shape.readsAs_of_relisted e.faithful_response relisted response
    (Shape.decode_encode e.faithful_response response)

/-- The list of the values of a response is read of its text. -/
theorem Endpoint.stands_of_relisted {response : e.Response} {items : List Document} {text : String}
    (relisted : Relisted e.response.slots (e.response.encode response) (.array items))
    (spells : Json.Spells text (.array items)) : Stands text (.array items) := by
  have readable : (Document.array items).Readable 3 :=
    relisted.readable (Fields.readable_slots e.faithful_response.fields (Nat.le_refl 2))
      (Shape.readable_encode e.faithful_response response)
  exact .inr (spells.read (readable.mono (by decide)))

/-- **Records and responses written as lists.**  If a call returns a response and the body of the
reply stands for an object, then the call returns the same response for every body that spells this
object with some of the records in it written as lists, next to any status of success.  A reply
whose body stands for a list is never a response, whatever the list holds: next to a status of
success it is reported as no object, and next to any other status by the status alone.  That is so
for the list of the values of a response as well, which is a body that stands for a list and which
the reader of the response would take. -/
theorem call_relisted (c : Client) (e : Endpoint) (r : e.Request) :
    (∀ (reply reply' : Reply) (members members' : List (String × Document)) (response : e.Response),
      (c.call e r (.answered reply)).result = .ok response →
      Stands (bodyText reply) (.object members) → MembersRel e.Relists members members' →
      isSuccess reply'.status → Json.Spells (bodyText reply') (.object members') →
      (c.call e r (.answered reply')).result = .ok response) ∧
    (∀ (reply : Reply) (items : List Document), Stands (bodyText reply) (.array items) →
      (∀ response, (c.call e r (.answered reply)).result ≠ .ok response) ∧
      (c.config.Usable e → isSuccess reply.status →
        (c.call e r (.answered reply)).result =
          .error ⟨.decode, "Unexpected response from " ++ e.path, some "expected a JSON object"⟩) ∧
      (c.config.Usable e → ¬ isSuccess reply.status →
        (c.call e r (.answered reply)).result =
          .error ⟨.application, "HTTP " ++ toString reply.status, none⟩)) ∧
    ∀ (response : e.Response) (items : List Document),
      Relisted e.response.slots (e.response.encode response) (.array items) →
      e.response.decode (Document.array items).value = .ok response ∧
        ∀ text, Json.Spells text (.array items) → Stands text (.array items) := by
  refine ⟨?_, fun reply items stands => ?_, fun response items relisted => ?_⟩
  · intro reply reply' members members' response result stands relists success spells
    exact result_call_of_returns
      (returns_of_relists (returns_of_result result) stands relists success spells)
  · obtain ⟨value, readable, no_object⟩ := noObject_of_stands stands
    refine ⟨fun response result => ?_, fun usable success => ?_, fun usable other => ?_⟩
    · obtain ⟨-, _, members, ⟨⟩, -, object, -, -⟩ := returns_of_result result
      rw [HasObject, readable] at object
      exact no_object members (Except.ok.inj object)
    · rw [result_call_of_usable usable, receive_answered,
        conclude_of_no_object success readable no_object]
      rfl
    · rw [result_call_of_rejection usable other,
        rejection_of_noObject (.inr (.inr ⟨value, readable, no_object⟩))]
      rfl
  · exact ⟨Endpoint.decode_of_relisted relisted, fun _ => Endpoint.stands_of_relisted relisted⟩

/-- A listing of three usages, of which the first is written as a list that leaves out its last item
and the second as a list that does not, and a response as a list. -/
theorem usages_relisted :
    let client := Client.new ⟨Config.defaultBaseUrl, none, Config.defaultTimeout⟩
    let request : FindUsagesRequest := ⟨"/work", "app.py", 3, 5⟩
    let result (status : Nat) (d : Document) :=
      (client.call .findUsages request (.answered ⟨status, Text.toBytes d.text⟩)).result
    let usage : Document := .object
      [("column", .ofNat 5), ("file", .string "a.py"), ("line", .ofNat 3), ("text", .string "f()")]
    let members (first second : Document) : List (String × Document) :=
      [("usages", .array [first, second, usage]), ("symbol", .string "f"), ("totalCount", .ofNat 3)]
    let values : List Document := [.string "a.py", .ofNat 3, .ofNat 5, .string "f()"]
    let short : Document := .array values
    let long : Document := .array (values ++ [.bool false])
    let info : UsageInfo := ⟨"a.py", 3, 5, "f()", false⟩
    let response : FindUsagesResponse := ⟨true, "f", [info, info, info], 3⟩
    let empty : Document := .array [.bool true, .string "f", .array [], .ofNat 0]
    result 200 (.object (members usage usage)) = .ok response ∧
      result 201 (.object (members short long)) = .ok response ∧
      Endpoint.findUsages.response.decode empty.value = .ok ⟨true, "f", [], 0⟩ ∧
      result 200 empty =
        .error ⟨.decode, "Unexpected response from /find/usages", some "expected a JSON object"⟩ ∧
      result 404 empty = .error ⟨.application, "HTTP 404", none⟩ := by
  intro client request result usage members values short long info response empty
  have usable : client.config.Usable .findUsages := by decide +kernel
  have three : (Json.Numeral.ofNat 3).isFinite = true := Codec.isFinite_ofNat (by decide)
  have five : (Json.Numeral.ofNat 5).isFinite = true := Codec.isFinite_ofNat (by decide)
  have readable : (Document.object (members usage usage)).Readable (0 + 1 + 1 + 1) := by
    simp [members, usage, Document.ofNat, three, five]
  have stands := stands_text readable (by decide) 200
  have returned : result 200 (.object (members usage usage)) = .ok response :=
    result_call_of_returns ⟨usable, _, _, rfl, rfl, hasObject_of_stands stands,
      fun denied => Option.some_ne_none _ denied.symm, rfl⟩
  have usages : Endpoint.findUsages.Relists "usages" (.array [usage, usage, usage])
      (.array [short, long, usage]) := by
    refine .records rfl (.cons (.listed ?_) (.cons (.listed ?_) (.cons (.same _) .nil)))
    · exact .given rfl (.given rfl (.given rfl (.given rfl (.leftOut rfl rfl .nil))))
    · exact .given rfl (.given rfl (.given rfl (.given rfl (.filled rfl rfl .nil))))
  have relists :
      MembersRel Endpoint.findUsages.Relists (members usage usage) (members short long) :=
    .cons ⟨rfl, usages⟩ (.cons ⟨rfl, .same _⟩ (.cons ⟨rfl, .same _⟩ .nil))
  have whole : Relisted Endpoint.findUsages.response.slots
      (Endpoint.findUsages.response.encode ⟨true, "f", [], 0⟩) empty :=
    .listed (.given rfl (.given rfl (.given rfl (.given rfl .nil))))
  obtain ⟨inside, refused, taken⟩ := call_relisted client .findUsages request
  obtain ⟨decoded, stands_empty⟩ := taken _ _ whole
  have list : ∀ status, Stands (bodyText ⟨status, Text.toBytes empty.text⟩) empty := fun status =>
    stands_empty _ (spells_text empty status)
  have missing : "HTTP 404" = "HTTP " ++ toString 404 := by decide +kernel
  refine ⟨returned, ?_, decoded, (refused _ _ (list 200)).2.1 usable rfl, ?_⟩
  · exact inside _ _ _ _ response returned stands relists rfl (spells_text _ 201)
  · rw [missing]
    exact (refused _ _ (list 404)).2.2 usable (by decide)

end RefactorGateway.Bridge
