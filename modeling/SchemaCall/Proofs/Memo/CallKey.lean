import SchemaCall.Memo.Store
import SchemaCall.Proofs.Call.Dispatch
import SchemaCall.Proofs.Json.Quotation

/-!
# What a call key tells

The canonical text of a call names the operation without any quoting, in front of the texts of its
arguments. It is nevertheless clear where the name ends, whatever characters it has: behind the
parenthesis that follows it come two compact texts of values, which have no parenthesis outside of
strings, so no earlier or later parenthesis could be the one (`eq_nil_of_append_paren`). Two calls
have the same text exactly when they are calls of one operation with arguments that are alike
(`encode_eq_iff`), and then they have the same key (`of_eq_of_alike`).
-/

namespace SchemaCall.CallKey

open Json (Place scan scan_append scan_append_of_stay scan_opposite scan_write Delimited
  delimited_cons write_append_inj)

/-- The canonical text behind the parenthesis that follows the operation. -/
def body (args : Arguments) : List Char :=
  ['a', 'r', 'g', 's', '='] ++ ((Json.array args.positional).canonical.write ++
    ([',', 'k', 'w', 'a', 'r', 'g', 's', '='] ++
      ((Json.object args.keyword.entries).canonical.write ++ [')'])))

/-- The canonical text of a call is the name of the operation, a parenthesis, and the text of the
arguments. -/
theorem encode_eq (operation : String) (args : Arguments) :
    encode operation args = operation.toList ++ '(' :: body args := by
  have hargs : "(args=".toList = '(' :: ['a', 'r', 'g', 's', '='] := by decide
  have hkwargs : ",kwargs=".toList = [',', 'k', 'w', 'a', 'r', 'g', 's', '='] := by decide
  simp only [encode, body, hargs, hkwargs, List.append_assoc, List.cons_append]

/-- A reader that starts outside of strings is there at the end again. -/
theorem scan_body (args : Arguments) : scan .outside (body args) = some .outside := by
  have hargs : scan .outside ['a', 'r', 'g', 's', '='] = some .outside := by decide
  have hkwargs : scan .outside [',', 'k', 'w', 'a', 'r', 'g', 's', '='] = some .outside := by
    decide
  rw [body, scan_append_of_stay hargs, scan_append_of_stay (scan_write _),
    scan_append_of_stay hkwargs, scan_append_of_stay (scan_write _)]
  rfl

/-- Of two parentheses that could end the operation, the later one is inside of a string for a
reader that starts at the earlier one. Seen from there the rest ends inside of a string as well, so
the two can not be different. -/
theorem eq_nil_of_append_paren {between early late : List Char}
    (hearly : scan .outside early = some .outside) (hlate : scan .outside late = some .outside)
    (h : between ++ '(' :: late = '(' :: early) : between = [] := by
  cases between with
  | nil => rfl
  | cons c between =>
    obtain rfl : between ++ '(' :: late = early := (List.cons.inj h).2
    rw [scan_append] at hearly
    -- the later parenthesis would have stopped a reader anywhere but inside of a string
    obtain ⟨place, -, hplace⟩ := Option.bind_eq_some_iff.mp hearly
    cases place with
    | outside => exact absurd hplace (by simp [scan, Place.next])
    | escaped => exact absurd hplace (by simp [scan, Place.next])
    | inside =>
      have hinside : scan .inside late = some .outside := hplace
      rcases scan_opposite hlate hinside with ⟨-, hne⟩ | ⟨hne, -⟩
      · exact absurd hne (by decide)
      · exact absurd hne (by decide)

/-- The canonical text tells where the operation ends. -/
theorem operation_eq_of_encode {o₁ o₂ : String} {a₁ a₂ : Arguments}
    (h : encode o₁ a₁ = encode o₂ a₂) : o₁ = o₂ ∧ body a₁ = body a₂ := by
  rw [encode_eq, encode_eq] at h
  have hlists : o₁.toList = o₂.toList := by
    rcases List.append_eq_append_iff.mp h with ⟨between, hop, hrest⟩ | ⟨between, hop, hrest⟩
    · rw [hop, eq_nil_of_append_paren (scan_body a₁) (scan_body a₂) hrest.symm, List.append_nil]
    · rw [hop, eq_nil_of_append_paren (scan_body a₂) (scan_body a₁) hrest.symm, List.append_nil]
  rw [hlists] at h
  exact ⟨String.toList_inj.mp hlists, (List.cons.inj (List.append_cancel_left h)).2⟩

/-- The text behind the parenthesis tells the arguments, up to member order. -/
theorem body_eq_iff {a₁ a₂ : Arguments} : body a₁ = body a₂ ↔ a₁.Alike a₂ := by
  rw [Arguments.alike_iff, Json.alike_iff_canonical_eq, Json.alike_iff_canonical_eq]
  constructor
  · intro h
    have hcomma (rest : List Char) :
        Delimited ([',', 'k', 'w', 'a', 'r', 'g', 's', '='] ++ rest) := delimited_cons rfl _
    obtain ⟨hpositional, hrest⟩ := write_append_inj _ (hcomma _) (hcomma _)
      (List.append_cancel_left h)
    have hparen : Delimited [')'] := delimited_cons rfl _
    obtain ⟨hkeyword, -⟩ := write_append_inj _ hparen hparen (List.append_cancel_left hrest)
    exact ⟨hpositional, hkeyword⟩
  · rintro ⟨hpositional, hkeyword⟩
    rw [body, body, hpositional, hkeyword]

/-- Two calls have one canonical text just if they have one operation and alike arguments. -/
theorem encode_eq_iff {o₁ o₂ : String} {a₁ a₂ : Arguments} :
    encode o₁ a₁ = encode o₂ a₂ ↔ o₁ = o₂ ∧ a₁.Alike a₂ := by
  rw [← body_eq_iff]
  constructor
  · exact operation_eq_of_encode
  · rintro ⟨rfl, hbody⟩
    rw [encode_eq, encode_eq, hbody]

/-! ## Keys -/

/-- The characters of a key determine the text they were made from. -/
theorem encode_eq_of_encoded_eq {o₁ o₂ : String} {a₁ a₂ : Arguments}
    (h : (of o₁ a₁).encoded = (of o₂ a₂).encoded) : encode o₁ a₁ = encode o₂ a₂ :=
  String.ofList_injective h

/-- Calls of one operation with arguments that are alike have one key. -/
theorem of_eq_of_alike (operation : String) {a₁ a₂ : Arguments} (h : a₁.Alike a₂) :
    of operation a₁ = of operation a₂ := by
  rw [of, of, encode_eq_iff.mpr ⟨rfl, h⟩]

/-- The texts of two calls are equal exactly when the operations are, the positional arguments are
as many and alike one by one, and the keyword arguments are the same as maps, with values that are
alike. Numbers are alike only if they are equal. -/
theorem encoded_eq_iff :
    (∀ (o₁ o₂ : String) (a₁ a₂ : Arguments), (of o₁ a₁).encoded = (of o₂ a₂).encoded ↔
      o₁ = o₂ ∧ List.Forall₂ Json.Alike a₁.positional a₂.positional ∧
        ∀ name, Option.Rel Json.Alike (a₁.keyword.get? name) (a₂.keyword.get? name)) ∧
    ∀ m n : Json.Number, Json.Alike (.number m) (.number n) ↔ m = n := by
  refine ⟨fun o₁ o₂ a₁ a₂ => ?_, fun m n => Json.alike_number_iff⟩
  constructor
  · intro h
    obtain ⟨hoperation, halike⟩ := encode_eq_iff.mp (encode_eq_of_encoded_eq h)
    exact ⟨hoperation, halike.positional, halike.keyword⟩
  · rintro ⟨rfl, hpositional, hkeyword⟩
    rw [of_eq_of_alike o₁ ⟨hpositional, hkeyword⟩]

end SchemaCall.CallKey
