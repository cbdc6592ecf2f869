/-
**Headers that can be sent.**

What may stand in a plan is a token for the name, and for the value a text whose bytes are no
controls other than tabs; every library takes that. A header of a request is sent as it stands,
unless it names variables, so only a value that names some can turn out not to be sendable.

* `Header.Fit`: what every library takes;
* `Header.fit_of_check`, `Header.checkSendable_of_fit`: it is what a plan allows, and is sent;
* `Headers.setAll_eq_ok_iff`: headers are set if and only if all of them can be carried;
* `ScriptStep.unfit_of_prepare`: a request fails for a header only if its value names a variable.
-/

import LoadTest.Http.Request
import LoadTest.Proofs.Script.Prepare

namespace LoadTest

open Text

/-! ### Bytes of a text -/

namespace Text.Utf8

theorem loop_toList (bytes : ByteArray) (place : Nat) (before : List UInt8) :
    ByteArray.toList.loop bytes place before = before.reverse ++ bytes.data.toList.drop place := by
  fun_induction ByteArray.toList.loop bytes place before with
  | case1 place before inside ih =>
    have here : bytes.get! place = bytes.data.toList[place] := by
      show bytes.data[place]! = _
      rw [getElem!_pos bytes.data place inside]
      rfl
    rw [ih, List.reverse_cons, List.append_assoc, List.singleton_append, here,
      List.drop_eq_getElem_cons inside]
  | case2 place before outside =>
    rw [List.drop_eq_nil_of_le (Nat.le_of_not_lt outside), List.append_nil]

/-- The bytes of a text are those of its characters. -/
theorem encode_eq (text : String) : encode text = text.toList.flatMap String.utf8EncodeChar := by
  unfold encode String.toUTF8
  rw [← String.utf8Encode_toList]
  unfold ByteArray.toList List.utf8Encode
  rw [loop_toList, List.toList_data_toByteArray]
  rfl

/-- A byte below 128 is a character by itself. -/
theorem eq_of_small {byte : UInt8} {c : Char} (member : byte ∈ String.utf8EncodeChar c)
    (small : byte.toNat < 0x80) : byte.toNat = c.toNat := by
  have long {value : Nat} (first : 0x80 ≤ value % 256) : ¬ (UInt8.ofNat value).toNat < 0x80 := by
    rw [UInt8.toNat_ofNat']
    omega
  unfold String.utf8EncodeChar at member
  dsimp only at member
  by_cases one : c.val.toNat ≤ 127
  · rw [if_pos one] at member
    obtain rfl := List.mem_singleton.mp member
    rw [UInt8.toNat_ofNat']
    show c.val.toNat % 256 = c.val.toNat
    omega
  -- All bytes of a longer character have their highest bit set.
  rw [if_neg one] at member
  exfalso
  split at member
  · simp only [List.mem_cons, List.not_mem_nil, or_false] at member
    rcases member with rfl | rfl
    all_goals exact long (by omega) small
  · split at member
    · simp only [List.mem_cons, List.not_mem_nil, or_false] at member
      rcases member with rfl | rfl | rfl
      all_goals exact long (by omega) small
    · simp only [List.mem_cons, List.not_mem_nil, or_false] at member
      rcases member with rfl | rfl | rfl | rfl
      all_goals exact long (by omega) small

theorem mem_encode_of_small {text : String} {c : Char} (member : c ∈ text.toList)
    (small : c.toNat < 0x80) : UInt8.ofNat c.toNat ∈ encode text := by
  rw [encode_eq]
  refine List.mem_flatMap.mpr ⟨c, member, ?_⟩
  have one : c.val.toNat ≤ 127 := Nat.le_of_lt_succ small
  unfold String.utf8EncodeChar
  dsimp only
  rw [if_pos one]
  exact List.mem_singleton.mpr rfl

end Text.Utf8

/-! ### Fit headers -/

namespace Header

/-- **What every library takes**: a token as the name, and a value without bytes of controls other
than tabs. -/
structure Fit (name value : String) : Prop where
  token : isName name = true
  bytes : ∀ byte ∈ Utf8.encode value, (byte = 0x09 ∨ 0x20 ≤ byte) ∧ byte ≠ 0x7F

variable {name value : String}

/-- **What may stand in a plan is fit.** -/
theorem fit_of_check (accepted : check name value = .ok ()) : Fit name value := by
  unfold check at accepted
  by_cases token : isName name = true
  · rw [token, Bool.not_true, if_neg Bool.false_ne_true] at accepted
    by_cases chars : value.toList.all isValueChar = true
    · refine ⟨token, fun byte member => ?_⟩
      rw [Utf8.encode_eq] at member
      obtain ⟨c, inside, own⟩ := List.mem_flatMap.mp member
      have valid := List.all_eq_true.mp chars c inside
      simp only [isValueChar, isControl, Bool.and_eq_true, Bool.or_eq_true, decide_eq_true_eq,
        Bool.not_eq_true', Bool.or_eq_false_iff, decide_eq_false_iff_not] at valid
      by_cases small : byte.toNat < 0x80
      · have same := Utf8.eq_of_small own small
        rcases valid.1 with rfl | ⟨printable, other⟩
        · have tab : byte = 0x09 := UInt8.toNat_inj.mp same
          exact ⟨.inl tab, by rw [tab]; decide⟩
        · refine ⟨.inr ?_, fun delete => ?_⟩
          · show 0x20 ≤ byte.toNat
            omega
          · rw [delete] at same
            have code : c.toNat = 0x7F := same.symm
            simp [code] at other
      · refine ⟨.inr ?_, fun delete => small (by rw [delete]; decide)⟩
        show 0x20 ≤ byte.toNat
        omega
    · rw [Bool.not_eq_true] at chars
      rw [chars, Bool.not_false, if_pos rfl] at accepted
      contradiction
  · rw [Bool.not_eq_true] at token
    rw [token, Bool.not_false, if_pos rfl] at accepted
    contradiction

/-- **A fit header is sent.** -/
theorem checkSendable_of_fit (fit : Fit name value) : checkSendable name value = .ok () := by
  have sendableName : isSendableName name = true := by
    obtain ⟨some?, token⟩ := Bool.and_eq_true_iff.mp fit.token
    refine Bool.and_eq_true_iff.mpr ⟨some?, List.all_eq_true.mpr fun c member => ?_⟩
    rw [List.all_eq_true.mp token c member, Bool.true_or]
  have sendable : isSendable value = true := by
    refine List.all_eq_true.mpr fun c member => ?_
    simp only [Bool.and_eq_true, Bool.or_eq_true, decide_eq_true_eq, bne_iff_ne, ne_eq]
    by_cases small : c.toNat < 0x80
    · obtain ⟨printable, other⟩ := fit.bytes _ (Utf8.mem_encode_of_small member small)
      have code : (UInt8.ofNat c.toNat).toNat = c.toNat := by
        rw [UInt8.toNat_ofNat']
        omega
      refine ⟨printable.imp (fun tab => ?_) fun above => ?_, fun delete => other ?_⟩
      · rw [tab] at code
        exact Char.ext (UInt32.toNat_inj.mp code.symm)
      · have above : 0x20 ≤ (UInt8.ofNat c.toNat).toNat := above
        omega
      · rw [delete]
        rfl
    · exact ⟨.inr (by omega), by omega⟩
  unfold checkSendable
  rw [sendableName, sendable]
  rfl

end Header

/-! ### Setting headers -/

namespace Headers

/-- All of some headers can be carried by a request. -/
def Sendable (entries : List (String × String)) : Prop :=
  ∀ header ∈ entries, Header.checkSendable header.1 header.2 = .ok ()

instance (entries : List (String × String)) : Decidable (Sendable entries) :=
  inferInstanceAs (Decidable (∀ header ∈ entries,
    Header.checkSendable header.1 header.2 = .ok ()))

/-- **Headers are set if and only if all of them can be carried**, and then one after the other. -/
theorem setAll_eq_ok_iff {entries : List (String × String)} {headers result : Headers} :
    headers.setAll entries = .ok result ↔ Sendable entries ∧
      entries.foldl (fun table header => table.insert (Header.folded header.1) header.2) headers =
        result := by
  induction entries generalizing headers with
  | nil =>
    exact ⟨fun same => ⟨fun _ member => absurd member List.not_mem_nil, Except.ok.inj same⟩,
      fun ⟨_, same⟩ => congrArg Except.ok same⟩
  | cons header rest ih =>
    unfold Sendable at ih ⊢
    rw [List.forall_mem_cons, and_assoc]
    unfold setAll set
    cases checked : Header.checkSendable header.1 header.2 with
    | error fault =>
      exact iff_of_false (fun same => by contradiction) fun ⟨same, _⟩ => by contradiction
    | ok passed => exact ih.trans (and_iff_right rfl).symm

theorem setAll_fit {entries : List (String × String)}
    (fit : ∀ header ∈ entries, Header.Fit header.1 header.2) (headers : Headers) :
    ∃ result, headers.setAll entries = .ok result :=
  ⟨_, setAll_eq_ok_iff.mpr
    ⟨fun header member => Header.checkSendable_of_fit (fit header member), rfl⟩⟩

/-- The header that is not set is one of those given. -/
theorem setAll_error {entries : List (String × String)} {headers : Headers} {name : String}
    {fault : HeaderFault} (failed : headers.setAll entries = .error (name, fault)) :
    ∃ value, (name, value) ∈ entries ∧ Header.checkSendable name value = .error fault := by
  induction entries generalizing headers with
  | nil => contradiction
  | cons header rest ih =>
    unfold setAll set at failed
    cases checked : Header.checkSendable header.1 header.2 with
    | error own =>
      rw [checked] at failed
      obtain ⟨rfl, rfl⟩ := Prod.mk.inj (Except.error.inj failed)
      exact ⟨header.2, List.mem_cons_self, checked⟩
    | ok passed =>
      rw [checked] at failed
      obtain ⟨value, member, own⟩ := ih failed
      exact ⟨value, List.mem_cons_of_mem _ member, own⟩

end Headers

/-! ### Headers of steps -/

theorem Client.resolve_ne_header (client : Client) (url name : String) (fault : HeaderFault) :
    client.resolve url ≠ .error (.header name fault) := by
  intro failed
  unfold resolve at failed
  split at failed
  · cases failed
  · split at failed
    · cases failed
    · rename_i base _
      cases joined : base.join url with
      | ok resolved =>
        rw [joined] at failed
        cases failed
      | error other =>
        rw [joined] at failed
        cases failed
  · cases failed

/-- A header for which nothing is sent is one of the request. -/
theorem Client.unsendable_of_prepare {client : Client} {request : Request} {name : String}
    {fault : HeaderFault} (failed : client.prepare request = .error (.header name fault)) :
    ∃ value, (name, value) ∈ request.headers ∧ Header.checkSendable name value = .error fault := by
  unfold prepare at failed
  cases url : client.resolve request.url with
  | error own =>
    rw [url] at failed
    obtain rfl : own = .header name fault := Except.error.inj failed
    exact absurd url (client.resolve_ne_header _ _ _)
  | ok resolved =>
    rw [url] at failed
    unfold headersOf at failed
    cases all : client.headers.setAll request.headers with
    | ok headers =>
      rw [all] at failed
      cases type : request.contentType with
      | none =>
        simp only [type] at failed
        contradiction
      | some contentType =>
        simp only [type] at failed
        contradiction
    | error pair =>
      rw [all] at failed
      obtain ⟨rfl, rfl⟩ := RequestFault.header.inj (Except.error.inj failed)
      exact Headers.setAll_error all

theorem Request.headers_withBody (request : Request) (body : Option StepBody) :
    (request.withBody body).headers = request.headers := by
  match body with
  | none => rfl
  | some (.json value) => rfl
  | some (.text value) => rfl

/-- A header without variables is part of the request that is sent. -/
theorem ScriptStep.mem_headers_of_plain {step : ScriptStep} {known : Variables} {request : Request}
    (ready : step.prepare known = some request) {header : String × String}
    (member : header ∈ step.headers) (plain : Variables.names header.2 = []) :
    header ∈ request.headers := by
  obtain ⟨headers, body, url, rendered, -, -, rfl⟩ := prepare_eq_some ready
  have unchanged : known.renderHeader header = some header := by
    unfold Variables.renderHeader
    rw [Variables.render_plain plain]
    rfl
  rw [Request.headers_withBody]
  exact mem_results_of_mem rendered member unchanged

/-- **A step fails for a header only if its value names a variable**, or could not stand in a
plan. -/
theorem ScriptStep.unfit_of_prepare {client : Client} {step : ScriptStep} {known : Variables}
    {request : Request} (ready : step.prepare known = some request) {name : String}
    {fault : HeaderFault} (failed : client.prepare request = .error (.header name fault)) :
    ∃ value, (name, value) ∈ step.headers ∧
      (Variables.names value ≠ [] ∨ ¬ Header.Fit name value) := by
  obtain ⟨sent, member, unsendable⟩ := client.unsendable_of_prepare failed
  obtain ⟨headers, body, url, rendered, -, -, rfl⟩ := prepare_eq_some ready
  rw [Request.headers_withBody] at member
  obtain ⟨⟨key, value⟩, inside, filled⟩ := exists_of_mem_mapM rendered member
  obtain ⟨text, isText, same⟩ := Option.map_eq_some_iff.mp filled
  obtain ⟨rfl, rfl⟩ := Prod.mk.inj same
  refine ⟨value, inside, ?_⟩
  by_cases plain : Variables.names value = []
  · rw [Variables.render_plain plain] at isText
    obtain rfl := Option.some.inj isText
    refine .inr fun fit => ?_
    rw [Header.checkSendable_of_fit fit] at unsendable
    contradiction
  · exact .inl plain

end LoadTest
