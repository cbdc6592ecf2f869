/-
**Which headers a request carries.**

A request carries one header of a name, in whatever case the name is written: the last of its own,
or else the last of the plan, or else the type of a JSON body. It carries no other header. If one
of its own headers cannot be carried, nothing is sent and nothing is recorded.

* `Request.Call`, `Request.build`: a request, call by call as it is built;
* `Header.Wins`: the value that a request has for a name;
* `Headers.Carries`: headers that hold the values that win, and nothing else;
* `Client.Sends`: a request that is sent with such headers, or not at all;
* `Client.sends_winners`: how the requests of a plan are sent.
-/

import LoadTest.Proofs.Http.Headers
import LoadTest.Proofs.Table
import LoadTest.Run.Activity

namespace LoadTest

open Text

/-! ### Building a request -/

namespace Request

/-- A call that builds a request. -/
inductive Call where
  | header (name value : String)
  | bearer (token : String)
  | json (value : Json)
  | bytes (body : List UInt8)
  | named (name : String)

namespace Call

/-- The header that a call adds. -/
def header? : Call → Option (String × String)
  | header name value => some (name, value)
  | bearer token => some ("authorization", "Bearer " ++ token)
  | _ => none

/-- Whether a call sets the body to JSON. -/
def isJson : Call → Bool
  | json _ => true
  | _ => false

end Call

/-- The headers that some calls add. -/
def headersOf (calls : List Call) : List (String × String) := calls.filterMap Call.header?

/-- Whether the body is set to JSON by some call. Bytes that are set later are sent in its place, but
they are still announced as JSON. -/
def setsJson (calls : List Call) : Bool := calls.any Call.isJson

/-- The request after a call. -/
def call (request : Request) : Call → Request
  | .header name value => request.header name value
  | .bearer token => request.bearer token
  | .json value => request.withJson value
  | .bytes body => request.withBytes body
  | .named name => request.named name

/-- **The request that some calls build.** -/
def build (method url : String) (calls : List Call) : Request := calls.foldl call (of method url)

theorem headers_call (request : Request) (one : Call) :
    (request.call one).headers = request.headers ++ one.header?.toList := by
  cases one with
  | header name value => rfl
  | bearer token => rfl
  | json value => exact (List.append_nil _).symm
  | bytes body => exact (List.append_nil _).symm
  | named name => exact (List.append_nil _).symm

theorem contentType_call (request : Request) (one : Call) : (request.call one).contentType =
    if one.isJson then some "application/json" else request.contentType := by
  cases one with
  | header name value => rfl
  | bearer token => rfl
  | json value => rfl
  | bytes body => rfl
  | named name => rfl

theorem headers_foldl (calls : List Call) (request : Request) :
    (calls.foldl call request).headers = request.headers ++ headersOf calls := by
  induction calls generalizing request with
  | nil => exact (List.append_nil _).symm
  | cons one rest ih =>
    have split : headersOf (one :: rest) = one.header?.toList ++ headersOf rest := by
      unfold headersOf
      rw [List.filterMap_cons]
      cases one.header? <;> rfl
    rw [List.foldl_cons, ih, headers_call, split, List.append_assoc]

theorem contentType_foldl (calls : List Call) (request : Request) :
    (calls.foldl call request).contentType =
      if setsJson calls then some "application/json" else request.contentType := by
  induction calls generalizing request with
  | nil => rfl
  | cons one rest ih =>
    rw [List.foldl_cons, ih, contentType_call, setsJson, setsJson, List.any_cons]
    cases one.isJson <;> cases rest.any Call.isJson <;> rfl

/-- **The headers of a request are those of its calls**, in their order. -/
theorem headers_build (method url : String) (calls : List Call) :
    (build method url calls).headers = headersOf calls :=
  headers_foldl calls (of method url)

/-- Its type is that of JSON if some call set it. -/
theorem contentType_build (method url : String) (calls : List Call) :
    (build method url calls).contentType =
      if setsJson calls then some "application/json" else none :=
  contentType_foldl calls (of method url)

end Request

/-! ### The value that wins -/

namespace Header

/-- Some headers have none of a name, in whatever case. -/
def Lacks (headers : List (String × String)) (name : String) : Prop :=
  ∀ header ∈ headers, folded header.1 ≠ folded name

/-- A value is that of the last header of a name, in whatever case. -/
def IsLast (headers : List (String × String)) (name value : String) : Prop :=
  ∃ earlier spelled later, headers = earlier ++ (spelled, value) :: later ∧
    folded spelled = folded name ∧ Lacks later name

/-- **The value that a request has for a name**, by the headers of the plan and its own. -/
inductive Wins (plan own : List (String × String)) (json : Bool) (name value : String) : Prop
  /-- The last of its own headers wins over all others. -/
  | own (last : IsLast own name value)
  /-- Where there is none, the last of the plan does. -/
  | plan (noOwn : Lacks own name) (last : IsLast plan name value)
  /-- Where there is none either, JSON is announced. -/
  | body (noOwn : Lacks own name) (noPlan : Lacks plan name) (isJson : json = true)
      (isType : folded name = folded "Content-Type") (isValue : value = "application/json")

/-- A header under its name in small letters. -/
def small (header : String × String) : String × String := (folded header.1, header.2)

/-- What is found last under a name. -/
def last? (headers : List (String × String)) (name : String) : Option String :=
  (headers.map small).reverse.lookup (folded name)

variable {headers plan own : List (String × String)} {json : Bool} {name value : String}

/-- A small letter stays as it is. -/
theorem toLower_small (c : Char) : c.toLower.toLower = c.toLower := by
  by_cases upper : c.val ≥ 'A'.val ∧ c.val ≤ 'Z'.val
  · refine dif_neg fun again => ?_
    have least : 65 ≤ c.val.toNat := upper.1
    have most : c.val.toNat ≤ 90 := upper.2
    have moved : c.toLower.val.toNat = (c.val.toNat + 32) % 4294967296 := by
      unfold Char.toLower
      rw [dif_pos upper]
      exact UInt32.toNat_add c.val 32
    have still : c.toLower.val.toNat ≤ 90 := again.2
    omega
  · have same : c.toLower = c := dif_neg upper
    rw [same, same]

theorem folded_folded (name : String) : folded (folded name) = folded name := by
  unfold folded
  rw [String.map_map]
  exact congrArg (String.map · name) (funext toLower_small)

/-- Names are the same if their letters are, whatever their case. -/
theorem folded_eq_folded_iff {first second : String} : folded first = folded second ↔
    first.toList.map Char.toLower = second.toList.map Char.toLower := by
  unfold folded
  rw [← String.toList_inj, String.toList_map, String.toList_map]

instance (headers : List (String × String)) (name : String) : Decidable (Lacks headers name) :=
  decidable_of_iff
    (∀ header ∈ headers, header.1.toList.map Char.toLower ≠ name.toList.map Char.toLower)
    (forall₂_congr fun _ _ => not_congr folded_eq_folded_iff.symm)

theorem last?_eq_none_iff : last? headers name = none ↔ Lacks headers name := by
  unfold last? Lacks
  rw [List.lookup_eq_none_iff]
  simp only [List.mem_reverse, List.forall_mem_map, small, bne_iff_ne, ne_eq,
    @eq_comm _ (folded name)]

theorem last?_eq_some_iff : last? headers name = some value ↔ IsLast headers name value := by
  unfold last? IsLast
  rw [List.lookup_eq_some_iff]
  constructor
  · -- What is looked at first is what comes last in the headers.
    rintro ⟨after, before, split, none⟩
    rw [List.reverse_eq_append_iff, List.reverse_cons, List.append_assoc, List.singleton_append]
      at split
    obtain ⟨earlier, rest, rfl, -, others⟩ := List.map_eq_append_iff.mp split
    obtain ⟨⟨spelled, value⟩, later, rfl, same, isLater⟩ := List.map_eq_cons_iff.mp others
    obtain ⟨isName, rfl⟩ := Prod.mk.inj same
    refine ⟨earlier, spelled, later, rfl, isName, fun header member sameName => ?_⟩
    have inside : small header ∈ after := by
      rw [← List.mem_reverse, ← isLater]
      exact List.mem_map_of_mem member
    exact bne_iff_ne.mp (none _ inside) sameName.symm
  · rintro ⟨earlier, spelled, later, rfl, isName, none⟩
    refine ⟨(later.map small).reverse, (earlier.map small).reverse, ?_, fun header member => ?_⟩
    · rw [List.map_append, List.map_cons, List.reverse_append, List.reverse_cons,
        List.append_assoc, List.singleton_append, small, isName]
    · obtain ⟨other, inside, rfl⟩ := List.mem_map.mp (List.mem_reverse.mp member)
      exact bne_iff_ne.mpr fun same => none other inside same.symm

/-- **The value that wins, as it is found**: a place is looked at only if nothing is found in those
before. -/
theorem wins_iff : Wins plan own json name value ↔
    (last? own name).or ((last? plan name).or
      (if json = true ∧ folded name = folded "Content-Type" then some "application/json"
        else none)) = some value := by
  constructor
  · intro wins
    cases wins with
    | own last => rw [last?_eq_some_iff.mpr last, Option.some_or]
    | plan noOwn last =>
      rw [last?_eq_none_iff.mpr noOwn, last?_eq_some_iff.mpr last, Option.none_or, Option.some_or]
    | body noOwn noPlan isJson isType isValue =>
      rw [last?_eq_none_iff.mpr noOwn, last?_eq_none_iff.mpr noPlan, if_pos ⟨isJson, isType⟩,
        isValue, Option.none_or, Option.none_or]
  · intro found
    cases isOwn : last? own name with
    | some first =>
      rw [isOwn, Option.some_or] at found
      exact .own (last?_eq_some_iff.mp (isOwn.trans found))
    | none =>
      have noOwn := last?_eq_none_iff.mp isOwn
      rw [isOwn, Option.none_or] at found
      cases isPlan : last? plan name with
      | some second =>
        rw [isPlan, Option.some_or] at found
        exact .plan noOwn (last?_eq_some_iff.mp (isPlan.trans found))
      | none =>
        have noPlan := last?_eq_none_iff.mp isPlan
        rw [isPlan, Option.none_or] at found
        by_cases typed : json = true ∧ folded name = folded "Content-Type"
        · rw [if_pos typed] at found
          exact .body noOwn noPlan typed.1 typed.2 (Option.some.inj found).symm
        · rw [if_neg typed] at found
          contradiction

end Header

/-! ### Headers that are set -/

namespace Headers

/-- All names are in small letters. -/
def Small (headers : Headers) : Prop := ∀ entry ∈ headers.entries, Header.folded entry.1 = entry.1

/-- **Headers that hold the value that wins under every name, and nothing else.** -/
structure Carries (headers : Headers) (plan own : List (String × String)) (json : Bool) : Prop where
  /-- No name is there twice, in whatever case. -/
  once : headers.entries.Pairwise fun first second =>
    Header.folded first.1 ≠ Header.folded second.1
  /-- A value is there under a name if and only if it wins. -/
  winners (name value : String) :
    (∃ entry ∈ headers.entries, Header.folded entry.1 = Header.folded name ∧ entry.2 = value) ↔
      Header.Wins plan own json name value

variable {headers result : Headers} {entries plan own : List (String × String)} {json : Bool}

/-- Headers that are set are put under their names in small letters. -/
theorem eq_of_setAll (made : headers.setAll entries = .ok result) :
    (entries.map Header.small).foldl (fun table entry => table.insert entry.1 entry.2) headers =
      result := by
  rw [List.foldl_map]
  exact (setAll_eq_ok_iff.mp made).2

/-- What is found under a name: what was set last, or else what was there before. -/
theorem value?_of_setAll (made : headers.setAll entries = .ok result) (name : String) :
    result.value? name = (Header.last? entries name).or (headers.value? name) := by
  rw [← eq_of_setAll made]
  exact Table.get?_foldl_insert _ headers _

theorem value?_setDefault (headers : Headers) (key value name : String) :
    (headers.setDefault key value).value? name = (headers.value? name).or
      (if Header.folded name = Header.folded key then some value else none) :=
  Table.get?_insertNew headers _ _ value

theorem small_empty : Small .empty := fun _ member => absurd member List.not_mem_nil

theorem small_of_setAll (made : headers.setAll entries = .ok result) (small : headers.Small) :
    result.Small := by
  intro entry member
  rw [← eq_of_setAll made] at member
  rcases Table.mem_foldl_insert member with before | new
  · exact small entry before
  · obtain ⟨header, -, rfl⟩ := List.mem_map.mp new
    exact Header.folded_folded header.1

theorem small_setDefault (small : headers.Small) (key value : String) :
    (headers.setDefault key value).Small := by
  unfold setDefault Table.insertNew
  split
  · exact small
  · intro entry member
    rcases Table.mem_insertEntry member with rfl | before
    · exact Header.folded_folded key
    · exact small entry before

/-- In headers with small names a value is there under a name if and only if it is found. -/
theorem exists_entry_iff (small : headers.Small) {name value : String} :
    (∃ entry ∈ headers.entries, Header.folded entry.1 = Header.folded name ∧ entry.2 = value) ↔
      headers.value? name = some value := by
  constructor
  · rintro ⟨entry, member, same, rfl⟩
    rw [small entry member] at same
    unfold value?
    rw [← same]
    exact Table.lookup_of_mem headers.nodup_keys member
  · intro found
    exact ⟨_, Table.mem_of_lookup found, Header.folded_folded name, rfl⟩

/-- Headers with small names in which just the values that win are found. -/
theorem carries_of_small (small : headers.Small)
    (found : ∀ name value, headers.value? name = some value ↔
      Header.Wins plan own json name value) :
    headers.Carries plan own json where
  once := headers.ascending.imp_of_mem fun first second below => by
    rw [small _ first, small _ second]
    exact String.ne_of_lt below
  winners name value := (exists_entry_iff small).trans (found name value)

end Headers

/-! ### Sending a request -/

namespace Client

variable {plan : List (String × String)} {client : Client} {request : Request} {json : Bool}

/-- **The headers that a client makes of a request.** -/
theorem carries_of_setAll (made : Headers.setAll .empty plan = .ok client.headers)
    (sendable : Headers.Sendable request.headers)
    (typed : request.contentType = if json then some "application/json" else none) :
    ∃ headers, client.headersOf request = .ok headers ∧
      headers.Carries plan request.headers json := by
  obtain ⟨merged, set⟩ : ∃ merged, client.headers.setAll request.headers = .ok merged :=
    ⟨_, Headers.setAll_eq_ok_iff.mpr ⟨sendable, rfl⟩⟩
  have small := Headers.small_of_setAll set (Headers.small_of_setAll made Headers.small_empty)
  have found (name : String) : merged.value? name =
      (Header.last? request.headers name).or (Header.last? plan name) := by
    rw [Headers.value?_of_setAll set, Headers.value?_of_setAll made]
    exact congrArg (Option.or _) Option.or_none
  -- Without JSON the merged headers are sent as they are, with it their type is added if it is new.
  unfold headersOf
  rw [set, typed]
  cases json with
  | false =>
    refine ⟨merged, rfl, Headers.carries_of_small small fun name value => ?_⟩
    rw [Header.wins_iff, found, if_neg fun both => Bool.false_ne_true both.1, Option.or_none]
  | true =>
    refine ⟨_, rfl, Headers.carries_of_small (Headers.small_setDefault small _ _)
      fun name value => ?_⟩
    rw [Header.wins_iff, Headers.value?_setDefault, found, Option.or_assoc]
    have sameName : Header.folded "content-type" = Header.folded "Content-Type" :=
      Header.folded_eq_folded_iff.mpr (by decide)
    simp only [sameName, true_and]

theorem prepare_of_headersOf {target : Url} {headers : Headers}
    (resolved : client.resolve request.url = .ok target)
    (made : client.headersOf request = .ok headers) :
    client.prepare request = .ok ⟨request.method, target, headers, request.body⟩ := by
  unfold prepare
  rw [resolved]
  show (client.headersOf request >>= _) = _
  rw [made]
  rfl

/-- **Nothing is sent if a header cannot be carried.** If the URL is usable, such a header is named
as the reason. -/
theorem exists_fault_of_prepare (unsendable : ¬ Headers.Sendable request.headers)
    (client : Client) : ∃ fault, client.prepare request = .error fault ∧
      ∀ target, client.resolve request.url = .ok target → ∃ name value reason,
        (name, value) ∈ request.headers ∧ Header.checkSendable name value = .error reason ∧
          fault = .header name reason := by
  unfold prepare
  cases client.resolve request.url with
  | error fault => exact ⟨fault, rfl, fun _ same => by contradiction⟩
  | ok target =>
    unfold headersOf
    cases set : client.headers.setAll request.headers with
    | error pair =>
      obtain ⟨value, member, reason⟩ := Headers.setAll_error set
      exact ⟨_, rfl, fun _ _ => ⟨pair.1, value, pair.2, member, reason, rfl⟩⟩
    | ok headers => exact absurd (Headers.setAll_eq_ok_iff.mp set).1 unsendable

end Client

/-! ### Steps -/

/-- Whether a body is JSON. -/
def StepBody.isJson : StepBody → Bool
  | .json _ => true
  | .text _ => false

namespace ScriptStep

variable {step : ScriptStep} {known : Variables} {request : Request}

/-- Whether the body of a step is JSON. -/
def isJson (step : ScriptStep) : Bool := step.body.any StepBody.isJson

/-- With its variables filled in a body is JSON if and only if it is JSON without. -/
theorem any_isJson_rendered {body : Option StepBody}
    (rendered : step.renderedBody known = some body) : body.any StepBody.isJson = step.isJson := by
  unfold renderedBody at rendered
  unfold isJson
  match before : step.body with
  | none =>
    rw [before] at rendered
    rw [← Option.some.inj rendered]
  | some (.json value) =>
    rw [before] at rendered
    obtain ⟨filled, isFilled, rfl⟩ := Option.map_eq_some_iff.mp rendered
    obtain ⟨after, -, rfl⟩ := Option.map_eq_some_iff.mp isFilled
    rfl
  | some (.text value) =>
    rw [before] at rendered
    obtain ⟨filled, isFilled, rfl⟩ := Option.map_eq_some_iff.mp rendered
    obtain ⟨after, -, rfl⟩ := Option.map_eq_some_iff.mp isFilled
    rfl

/-- **The headers and the type of a step's request.** -/
theorem headers_of_prepare (ready : step.prepare known = some request) :
    step.headers.mapM known.renderHeader = some request.headers ∧
      request.contentType = if step.isJson then some "application/json" else none := by
  obtain ⟨headers, body, url, rendered, isBody, -, rfl⟩ := prepare_eq_some ready
  rw [Request.headers_withBody, ← any_isJson_rendered isBody]
  refine ⟨rendered, ?_⟩
  match body with
  | none => rfl
  | some (.json value) => rfl
  | some (.text value) => rfl

end ScriptStep

/-! ### What is asked of a server -/

namespace Activity

variable {client : Client} {request : Request} (next : Except IterationFault Response → Activity)
  (tags : Tags) (clock : Duration) (scene : Scene)

theorem proceed_ask_usable {outgoing : Outgoing} (usable : client.prepare request = .ok outgoing) :
    ∃ waiting, (ask client request next).proceed tags clock scene =
      (.send outgoing waiting, { scene with step := some request.step }) := by
  unfold ask
  rw [usable]
  exact ⟨_, rfl⟩

theorem proceed_ask_unusable {fault : RequestFault}
    (unusable : client.prepare request = .error fault) :
    (ask client request next).proceed tags clock scene =
      (next (.error (.request fault))).proceed tags clock
        { scene with step := some request.step } := by
  unfold ask
  rw [unusable]
  rfl

end Activity

namespace Client

/-- **A request is sent with the headers that win, or not at all.** -/
structure Sends (client : Client) (plan own : List (String × String)) (json : Bool)
    (request : Request) : Prop where
  /-- If all of its own headers can be carried, those that win are handed to the server. -/
  carried : Headers.Sendable own → ∃ headers : Headers, headers.Carries plan own json ∧
    ∀ target, client.resolve request.url = .ok target → ∀ next tags clock scene, ∃ waiting,
      (Activity.ask client request next).proceed tags clock scene =
        (.send ⟨request.method, target, headers, request.body⟩ waiting,
          { scene with step := some request.step })
  /-- If not, it comes back with a fault, and only the name of the step has changed: nothing is
  recorded, written down or waited for. Unless the URL is unusable, the fault names the header. -/
  refused : ¬ Headers.Sendable own → ∃ fault,
    (∀ target, client.resolve request.url = .ok target → ∃ name value reason,
      (name, value) ∈ own ∧ Header.checkSendable name value = .error reason ∧
        fault = .header name reason) ∧
    ∀ next tags clock scene, (Activity.ask client request next).proceed tags clock scene =
      (next (.error (.request fault))).proceed tags clock { scene with step := some request.step }

theorem sends_of_setAll {plan : List (String × String)} {client : Client} {request : Request}
    {json : Bool} (made : Headers.setAll .empty plan = .ok client.headers)
    (typed : request.contentType = if json then some "application/json" else none) :
    client.Sends plan request.headers json request where
  carried sendable := by
    obtain ⟨headers, areHeaders, carries⟩ := carries_of_setAll made sendable typed
    refine ⟨headers, carries, fun target resolved next tags clock scene => ?_⟩
    exact Activity.proceed_ask_usable next tags clock scene
      (prepare_of_headersOf resolved areHeaders)
  refused unsendable := by
    obtain ⟨fault, failed, reason⟩ := exists_fault_of_prepare unsendable client
    exact ⟨fault, reason, fun next tags clock scene =>
      Activity.proceed_ask_unusable next tags clock scene failed⟩

/-- **How the requests of a plan are sent.** A plan whose headers can be carried has a client. A
request is sent with the headers that win, whatever calls build it, and so is that of a step, whose
own headers are those of the step with their variables filled in. -/
theorem sends_winners {plan : Plan} (accepted : Headers.Sendable plan.headers) :
    ∃ client, ofPlan plan = .ok client ∧
      (∀ (method url : String) (calls : List Request.Call),
        client.Sends plan.headers (Request.headersOf calls) (Request.setsJson calls)
          (Request.build method url calls)) ∧
      ∀ (step : ScriptStep) (known : Variables) (request : Request),
        step.prepare known = some request →
          ∃ own, step.headers.mapM known.renderHeader = some own ∧
            client.Sends plan.headers own step.isJson request := by
  obtain ⟨defaults, made⟩ : ∃ defaults, Headers.setAll .empty plan.headers = .ok defaults :=
    ⟨_, Headers.setAll_eq_ok_iff.mpr ⟨accepted, rfl⟩⟩
  refine ⟨⟨plan.baseUrl, defaults⟩, by rw [ofPlan, made], fun method url calls => ?_,
    fun step known request ready => ?_⟩
  · rw [← Request.headers_build method url calls]
    exact sends_of_setAll made (Request.contentType_build method url calls)
  · obtain ⟨own, typed⟩ := ScriptStep.headers_of_prepare ready
    exact ⟨request.headers, own, sends_of_setAll made typed⟩

/-- The token of a plan gives way to that of a request, of two types in the plan the second one is
asked for, and JSON is announced. A name with a blank is not sent. -/
theorem sends_winners_token :
    let defaults := [("Authorization", "Bearer plan"), ("Accept", "*/*"), ("ACCEPT", "text/plain")]
    let plan : Plan := { Plan.named "token" with headers := defaults }
    let request := Request.build "POST" "http://localhost/"
      [.header "AUTHORIZATION" "Basic own", .bearer "own", .json .null]
    let stray := Request.build "GET" "http://localhost/" [.header "X Token" "own"]
    Headers.Sendable plan.headers ∧
    ∃ client target, ofPlan plan = .ok client ∧ client.resolve "http://localhost/" = .ok target ∧
      (∃ headers : Headers,
        (∃ entry ∈ headers.entries, Header.folded entry.1 = Header.folded "Authorization" ∧
          entry.2 = "Bearer own") ∧
        (∃ entry ∈ headers.entries, Header.folded entry.1 = Header.folded "Accept" ∧
          entry.2 = "text/plain") ∧
        (∃ entry ∈ headers.entries, Header.folded entry.1 = Header.folded "Content-Type" ∧
          entry.2 = "application/json") ∧
        ∀ next tags clock scene, ∃ waiting,
          (Activity.ask client request next).proceed tags clock scene =
            (.send ⟨"POST", target, headers, request.body⟩ waiting,
              { scene with step := some request.step })) ∧
      ∃ name reason, ∀ next tags clock scene,
        (Activity.ask client stray next).proceed tags clock scene =
          (next (.error (.request (.header name reason)))).proceed tags clock
            { scene with step := some stray.step } := by
  intro defaults plan request stray
  let own := [("AUTHORIZATION", "Basic own"), ("authorization", "Bearer own")]
  have accepted : Headers.Sendable plan.headers := by decide +kernel
  obtain ⟨client, isClient, sends, -⟩ := sends_winners accepted
  obtain ⟨target, isTarget⟩ : ∃ target, client.resolve "http://localhost/" = .ok target := by
    have usable : (Url.parse "http://localhost/").toOption.isSome = true := by decide +kernel
    unfold resolve
    cases parsed : Url.parse "http://localhost/" with
    | ok target => exact ⟨target, rfl⟩
    | error fault =>
      rw [parsed] at usable
      contradiction
  obtain ⟨headers, carries, sent⟩ := (sends "POST" "http://localhost/"
    [.header "AUTHORIZATION" "Basic own", .bearer "own", .json .null]).carried (by decide +kernel)
  obtain ⟨fault, named, ends⟩ :=
    (sends "GET" "http://localhost/" [.header "X Token" "own"]).refused (by decide +kernel)
  obtain ⟨name, value, reason, -, -, rfl⟩ := named target isTarget
  have token : Header.Wins defaults own true "Authorization" "Bearer own" :=
    .own ⟨[("AUTHORIZATION", "Basic own")], "authorization", [], rfl,
      Header.folded_eq_folded_iff.mpr (by decide), by decide⟩
  have type : Header.Wins defaults own true "Accept" "text/plain" :=
    .plan (by decide) ⟨[("Authorization", "Bearer plan"), ("Accept", "*/*")], "ACCEPT", [], rfl,
      Header.folded_eq_folded_iff.mpr (by decide), by decide⟩
  have json : Header.Wins defaults own true "Content-Type" "application/json" :=
    .body (by decide) (by decide) rfl rfl rfl
  exact ⟨accepted, client, target, isClient, isTarget, ⟨headers, (carries.winners _ _).mpr token,
    (carries.winners _ _).mpr type, (carries.winners _ _).mpr json, sent target isTarget⟩, name,
    reason, ends⟩

end Client

end LoadTest
