import SchemaCall.Proofs.Call.Dispatch

/-!
# What a response means

`Response.Means` lists the four things that a response can be: no object, a reported failure, a
result, or an object that carries neither. `Response.answer_eq_iff` says that every response is
exactly one of them, and that the answer is what that one says.

Of an object, only the members `error` and `result` are looked at (`Response.answer_congr`), so
responses that agree on these two mean the same, in whatever order their members come. In
particular nothing changes when a null error is taken out and the last member is moved to its place
(`Response.answer_swapRemove`).
-/

namespace SchemaCall

namespace Response

/-! ## Reported failures -/

/-- The message of a failure, by what its error member is: the message that the error has, as it is
if it is a text and otherwise written out; the error itself if it is a text; and any other error
written out as a whole. -/
inductive Worded : Json → String → Prop where
  | text {error : Json} {message : String} (found : error.get? "message" = some (.string message)) :
      Worded error message
  | written {error message : Json} (found : error.get? "message" = some message)
      (noText : ∀ text, message ≠ .string text) : Worded error message.compact
  | bare (message : String) : Worded (.string message) message
  | whole {error : Json} (absent : error.get? "message" = none)
      (noText : ∀ text, error ≠ .string text) : Worded error error.compact

/-- A failure with message, code and data is what an error member reports. The code is there if it
is an integer of 64 bits with a sign, and the data are whatever the error has. -/
structure Reports (error : Json) (message : String) (code : Option Int) (data : Option Json) :
    Prop where
  worded : Worded error message
  code_iff : ∀ number : Int, code = some number ↔
    ∃ fits, error.get? "code" = some (.number (.integer number fits)) ∧
      -0x8000000000000000 ≤ number ∧ number ≤ 0x7fffffffffffffff
  data_eq : data = error.get? "data"

private theorem worded_of_match (error : Json) :
    Worded error (match error.get? "message" with
      | some (.string message) => message
      | some other => other.compact
      | none => error.string?.getD error.compact) := by
  split
  · rename_i message found
    exact .text found
  · rename_i message notText found
    exact .written found notText
  · rename_i absent
    cases error with
    | string message => exact .bare message
    | _ => exact .whole absent (by simp)

private theorem toInt64?_eq_some_iff {code : Json.Number} {number : Int} :
    code.toInt64? = some number ↔ ∃ fits, code = .integer number fits ∧
      -0x8000000000000000 ≤ number ∧ number ≤ 0x7fffffffffffffff := by
  cases code with
  | integer value fits =>
    rw [Json.Number.toInt64?]
    split
    · rename_i hle
      constructor
      · intro h
        obtain rfl := Option.some.inj h
        exact ⟨fits, rfl, fits.1, hle⟩
      · rintro ⟨_, h, -⟩
        rw [(Json.Number.integer.inj h)]
    · rename_i hlt
      constructor
      · exact fun h => nomatch h
      · rintro ⟨_, h, -, hle⟩
        exact absurd ((Json.Number.integer.inj h) ▸ hle) hlt
  | double value =>
    constructor
    · exact fun h => nomatch h
    · rintro ⟨_, h, -⟩
      exact nomatch h

private theorem code_of_match (error : Json) (number : Int) :
    (match error.get? "code" with
      | some (.number code) => code.toInt64?
      | _ => none) = some number ↔
    ∃ fits, error.get? "code" = some (.number (.integer number fits)) ∧
      -0x8000000000000000 ≤ number ∧ number ≤ 0x7fffffffffffffff := by
  split
  · rename_i code found
    simp only [found, Option.some.injEq, Json.number.injEq, toInt64?_eq_some_iff]
  · rename_i noNumber
    constructor
    · exact fun h => nomatch h
    · rintro ⟨_, found, -⟩
      exact absurd found (noNumber _)

private theorem match_of_worded {error : Json} {message : String} (h : Worded error message) :
    (match error.get? "message" with
      | some (.string message) => message
      | some other => other.compact
      | none => error.string?.getD error.compact) = message := by
  cases h with
  | text found => rw [found]
  | written found noText =>
    rw [found]
    split
    · rename_i text htext
      exact absurd (Option.some.inj htext) (noText text)
    · rename_i hother
      rw [Option.some.inj hother]
    · rename_i hnone
      exact nomatch hnone
  | bare message => rfl
  | whole absent noText =>
    rw [absent]
    cases error with
    | string text => exact absurd rfl (noText text)
    | _ => rfl

/-- What is read off an error member is what it reports, and nothing else. -/
theorem remoteFailure_eq_iff {error : Json} {message : String} {code : Option Int}
    {data : Option Json} :
    remoteFailure error = .remoteFailure message code data ↔ Reports error message code data := by
  rw [remoteFailure, CallError.remoteFailure.injEq]
  constructor
  · rintro ⟨rfl, rfl, rfl⟩
    exact ⟨worded_of_match error, code_of_match error, rfl⟩
  · intro h
    refine ⟨match_of_worded h.worded, ?_, h.data_eq.symm⟩
    apply Option.ext
    intro number
    exact (code_of_match error number).trans (h.code_iff number).symm

/-! ## What a response means -/

/-- No failure is reported: the error member is absent or null. -/
def NoFailure (members : List (String × Json)) : Prop :=
  Entries.get? members "error" = none ∨ Entries.get? members "error" = some .null

instance (members : List (String × Json)) : Decidable (NoFailure members) :=
  inferInstanceAs (Decidable (_ ∨ _))

/-- What a response means to a caller that expects results of the output schema. Only an object is a
response. An error other than null is a failure, whatever else is there; without one, the result is
projected to the output, also where it is null; and what has neither is no response. -/
inductive Means (output : Schema) : Json → Except CallError Json → Prop where
  | noObject {response : Json} (h : ∀ members, response ≠ .object members) :
      Means output response
        (.error (.malformedResponse ("expected a response object, got " ++ response.kindName)))
  | failure {members : List (String × Json)} {error : Json} {message : String} {code : Option Int}
      {data : Option Json} (found : Entries.get? members "error" = some error)
      (notNull : error ≠ .null) (reports : Reports error message code data) :
      Means output (.object members) (.error (.remoteFailure message code data))
  | result {members : List (String × Json)} {result : Json} (noFailure : NoFailure members)
      (found : Entries.get? members "result" = some result) :
      Means output (.object members) (.ok (output.project result))
  | neither {members : List (String × Json)} (noFailure : NoFailure members)
      (absent : Entries.get? members "result" = none) :
      Means output (.object members)
        (.error (.malformedResponse "response carries neither 'result' nor 'error'"))

private theorem filter_notNull_eq_some_iff {found : Option Json} {error : Json} :
    found.filter (fun error => !error.isNull) = some error ↔
      found = some error ∧ error ≠ .null := by
  rw [Option.filter_eq_some_iff]
  cases error <;> simp [Json.isNull]

private theorem filter_notNull_eq_none_iff {members : List (String × Json)} :
    (Entries.get? members "error").filter (fun error => !error.isNull) = none ↔
      NoFailure members := by
  rw [NoFailure]
  cases Entries.get? members "error" with
  | none => simp
  | some error => cases error <;> simp [Json.isNull]

/-- Every response means exactly one thing, and that is its answer. -/
theorem answer_eq_iff {output : Schema} {response : Json} {outcome : Except CallError Json} :
    answer output response = outcome ↔ Means output response outcome := by
  constructor
  · rintro rfl
    cases response with
    | object members =>
      -- to take the error out leaves the look-up of the result as it was
      rw [answer, result?, get?_result_swapRemove]
      split
      · rename_i error hfilter
        obtain ⟨hfound, hnull⟩ := filter_notNull_eq_some_iff.mp hfilter
        exact .failure hfound hnull (remoteFailure_eq_iff.mp rfl)
      · rename_i hfilter
        have hnone := filter_notNull_eq_none_iff.mp hfilter
        split
        · rename_i result hresult
          exact .result hnone hresult
        · rename_i habsent
          exact .neither hnone habsent
    | _ => exact .noObject (by simp)
  · intro h
    cases h with
    | noObject h =>
      cases response with
      | object members => exact absurd rfl (h members)
      | _ => rfl
    | failure found notNull reports =>
      rw [answer, result?, filter_notNull_eq_some_iff.mpr ⟨found, notNull⟩]
      exact congrArg Except.error (remoteFailure_eq_iff.mpr reports)
    | result noFailure found =>
      rw [answer, result?, get?_result_swapRemove, filter_notNull_eq_none_iff.mpr noFailure, found]
      rfl
    | neither noFailure absent =>
      rw [answer, result?, get?_result_swapRemove, filter_notNull_eq_none_iff.mpr noFailure, absent]
      rfl

/-! ## What a response does not depend on -/

/-- A failure is reported whatever the output schema is. -/
theorem answer_eq_error {output other : Schema} {response : Json} {error : CallError}
    (h : answer output response = .error error) : answer other response = .error error := by
  cases answer_eq_iff.mp h with
  | noObject noObject => exact answer_eq_iff.mpr (.noObject noObject)
  | failure found notNull reports => exact answer_eq_iff.mpr (.failure found notNull reports)
  | neither noFailure absent => exact answer_eq_iff.mpr (.neither noFailure absent)

/-- The answer looks at two members only. -/
theorem answer_congr (output : Schema) {members others : List (String × Json)}
    (hError : Entries.get? members "error" = Entries.get? others "error")
    (hResult : Entries.get? members "result" = Entries.get? others "result") :
    answer output (.object members) = answer output (.object others) := by
  rw [answer, answer, result?, result?, get?_result_swapRemove, get?_result_swapRemove, hError,
    hResult]

/-- The members that a response is read from. -/
def relevant (members : List (String × Json)) : List (String × Json) :=
  members.filter fun member => member.1 ∈ ["error", "result"]

/-- Responses whose relevant members are the same, in any order, have the same answer. -/
theorem answer_eq_of_perm (output : Schema) {members others : List (String × Json)}
    (distinct : Entries.Distinct members) (h : (relevant members).Perm (relevant others)) :
    answer output (.object members) = answer output (.object others) := by
  have hget {name : String} (hname : name ∈ ["error", "result"]) :
      Entries.get? members name = Entries.get? others name := by
    have hkept (members : List (String × Json)) :
        Entries.get? (relevant members) name = Entries.get? members name :=
      Entries.get?_filter_of_pos (fun key => key ∈ ["error", "result"]) (decide_eq_true hname)
        members
    rw [← hkept members, ← hkept others]
    exact Entries.get?_eq_of_perm h (distinct.filter _) name
  exact answer_congr output (hget (by simp)) (hget (by simp))

/-- Where no failure is reported, the error member may as well be taken out. -/
theorem answer_swapRemove (output : Schema) {members : List (String × Json)}
    (distinct : Entries.Distinct members) (noFailure : NoFailure members) :
    answer output (.object (Entries.swapRemove members "error")) =
      answer output (.object members) := by
  have hresult := get?_result_swapRemove members
  have hleft : NoFailure (Entries.swapRemove members "error") :=
    .inl (Entries.get?_swapRemove_self distinct "error")
  cases hfound : Entries.get? members "result" with
  | none =>
    rw [answer_eq_iff.mpr (.neither noFailure hfound),
      answer_eq_iff.mpr (.neither hleft (hresult.trans hfound))]
  | some result =>
    rw [answer_eq_iff.mpr (.result noFailure hfound),
      answer_eq_iff.mpr (.result hleft (hresult.trans hfound))]

/-- Every response means exactly one thing, and that is its answer; failures are the same for every
output schema; and only two members matter, in whatever order they come. -/
theorem answer_reads_two_members (output : Schema) :
    (∀ response outcome, answer output response = outcome ↔ Means output response outcome) ∧
      (∀ response error, answer output response = .error error →
        ∀ other, answer other response = .error error) ∧
      (∀ members others, Entries.Distinct members → (relevant members).Perm (relevant others) →
        answer output (.object members) = answer output (.object others)) ∧
      ∀ members, Entries.Distinct members → NoFailure members →
        answer output (.object (Entries.swapRemove members "error")) =
          answer output (.object members) :=
  ⟨fun _ _ => answer_eq_iff, fun _ _ h _ => answer_eq_error h,
    fun _ _ distinct h => answer_eq_of_perm output distinct h,
    fun _ distinct noFailure => answer_swapRemove output distinct noFailure⟩

/-- A response without a failure, whose result is null. -/
def nullResult : List (String × Json) :=
  [("error", .null), ("id", .string "a"), ("result", .null)]

/-- A null result in two orders and with its error taken out, and a failure that is no text. -/
theorem answer_reads_two_members_nullResult :
    answer (.scalar .boolean none) (.object nullResult) = .ok .null ∧
      answer (.scalar .boolean none) (.object [("result", .null), ("error", .null)]) = .ok .null ∧
      answer (.scalar .boolean none) (.object [("result", .null), ("id", .string "a")]) =
        .ok .null ∧
      answer (.list (.scalar .string none) none)
          (.object [("result", .null), ("error", .object [("message", .null)])]) =
        .error (.remoteFailure "null" none none) := by
  obtain ⟨hmeans, herror, hperm, hremove⟩ := answer_reads_two_members (.scalar .boolean none)
  have hdistinct : Entries.Distinct nullResult := by decide
  have hnone : NoFailure nullResult := .inr rfl
  have hresult : answer (.scalar .boolean none) (.object nullResult) = .ok .null :=
    (hmeans _ _).mpr (.result hnone rfl)
  have hsame : (relevant nullResult).Perm (relevant [("result", .null), ("error", .null)]) :=
    .swap _ _ _
  have hfailure : answer (.scalar .boolean none)
      (.object [("result", .null), ("error", .object [("message", .null)])]) =
        .error (.remoteFailure "null" none none) := rfl
  refine ⟨hresult, ?_, ?_, herror _ _ hfailure _⟩
  · exact (hperm _ _ hdistinct hsame).symm.trans hresult
  · exact (hremove _ hdistinct hnone).trans hresult

end Response

end SchemaCall
