import SchemaCall.CommandLine
import SchemaCall.Proofs.Json.ReadBack

/-!
# Written command lines

A call is written as a command line: its operation, then a word for each argument, with options at
any place among them. It is read as that call (`readCall_of_written`), because every word is read as
what it stands for (`Word.read_write`) and none of them is taken for an option
(`Word.not_isFlag_write`). The text of a value is never taken for a keyword argument: either it has
no equality sign, or it starts with a character that no identifier has
(`isIdentifier_eq_false_of_splitAtEquals`).
-/

namespace SchemaCall.CommandLine

/-! ## Words of a call -/

/-- An identifier is made of letters, digits and underscores, and there is at least one. -/
theorem isIdentifier_iff {text : List Char} :
    isIdentifier text = true ↔ text ≠ [] ∧ ∀ c ∈ text, c.isAlphanum = true ∨ c = '_' := by
  simp [isIdentifier]

/-- An identifier has no equality sign. -/
private theorem equals_not_mem_of_isIdentifier {text : List Char} (h : isIdentifier text = true) :
    '=' ∉ text := fun hmem =>
  absurd ((isIdentifier_iff.mp h).2 '=' hmem) (by decide)

private theorem splitAtEquals_eq_none {text : List Char} (h : '=' ∉ text) :
    splitAtEquals text = none := by
  have htext : ∀ c ∈ text, decide (c ≠ '=') = true :=
    fun c hc => decide_eq_true fun heq => h (heq ▸ hc)
  have hdrop : text.dropWhile (· ≠ '=') = [] := by
    rw [← List.append_nil text, List.dropWhile_append_of_pos htext, List.dropWhile_nil]
  rw [splitAtEquals, hdrop]

private theorem splitAtEquals_append {name : List Char} (h : '=' ∉ name) (value : List Char) :
    splitAtEquals (name ++ '=' :: value) = some (name, value) := by
  have hname : ∀ c ∈ name, decide (c ≠ '=') = true :=
    fun c hc => decide_eq_true fun heq => h (heq ▸ hc)
  rw [splitAtEquals, List.dropWhile_append_of_pos hname, List.takeWhile_append_of_pos hname]
  simp

/-- What stands before an equality sign starts as the text does, if the text does not start with the
sign. -/
private theorem isIdentifier_eq_false_of_lead {c : Char} (hc : c ≠ '=')
    (hlead : ¬(c.isAlphanum = true ∨ c = '_')) {text name value : List Char}
    (h : splitAtEquals (c :: text) = some (name, value)) : isIdentifier name = false := by
  have hname : name = c :: text.takeWhile (· ≠ '=') := by
    rw [splitAtEquals] at h
    split at h
    · rw [← (Prod.mk.inj (Option.some.inj h)).1]
      exact List.takeWhile_cons_of_pos (decide_eq_true hc)
    · exact nomatch h
  rw [hname, Bool.eq_false_iff]
  intro hidentifier
  exact hlead ((isIdentifier_iff.mp hidentifier).2 c List.mem_cons_self)

/-- What stands before an equality sign in the text of a value is not an identifier. -/
theorem isIdentifier_eq_false_of_splitAtEquals {value : Json} {name rest : List Char}
    (h : splitAtEquals value.write = some (name, rest)) : isIdentifier name = false := by
  -- words and numbers have no equality sign
  have hplain (hmem : '=' ∉ value.write) : isIdentifier name = false := by
    rw [splitAtEquals_eq_none hmem] at h
    exact nomatch h
  cases value with
  | null => exact hplain (by decide)
  | bool value => exact hplain (by cases value <;> decide)
  | number n =>
    exact hplain fun hmem => absurd (Json.Number.isNumeral_of_mem_write hmem) (by decide)
  | string text => exact isIdentifier_eq_false_of_lead (by decide) (by decide) h
  | array items => exact isIdentifier_eq_false_of_lead (by decide) (by decide) h
  | object members => exact isIdentifier_eq_false_of_lead (by decide) (by decide) h

/-- A value that can be restored is read back from its text. -/
theorem readValue_write {value : Json} (h : value.Restorable) : readValue value.write = value := by
  rw [readValue, Json.readChars_write h]

namespace Word

/-- The word for an argument. -/
def write : Word → String
  | positional value => value.compact
  | keyword name value => name ++ "=" ++ value.compact

/-- The name of a keyword argument is an identifier, and the value can be restored from its text. -/
def Readable : Word → Prop
  | positional value => value.Restorable
  | keyword name value => isIdentifier name.toList = true ∧ value.Restorable

private theorem toList_write_positional (value : Json) :
    (positional value).write.toList = value.write :=
  String.toList_ofList

private theorem toList_write_keyword (name : String) (value : Json) :
    (keyword name value).write.toList = name.toList ++ '=' :: value.write := by
  simp [write, Json.compact]

/-- A word is read as what it stands for. -/
theorem read_write {word : Word} (h : word.Readable) : read word.write = word := by
  cases word with
  | positional value =>
    rw [read, toList_write_positional, readValue_write h]
    split
    · rename_i hsplit
      rw [isIdentifier_eq_false_of_splitAtEquals hsplit]
      rfl
    · rfl
  | keyword name value =>
    obtain ⟨hname, hvalue⟩ := h
    rw [read, toList_write_keyword, splitAtEquals_append (equals_not_mem_of_isIdentifier hname)]
    dsimp only
    rw [if_pos hname, readValue_write hvalue, String.ofList_toList]

/-- A text without an equality sign that is not JSON is not the word of an argument. -/
theorem write_ne_of_unreadable {word : Word} (h : word.Readable) {text : String}
    (hequals : '=' ∉ text.toList) (hjson : (Json.readChars text.toList).toOption = none) :
    word.write ≠ text := by
  rintro rfl
  cases word with
  | positional value =>
    rw [toList_write_positional, Json.readChars_write h] at hjson
    exact nomatch hjson
  | keyword name value =>
    rw [toList_write_keyword] at hequals
    exact hequals (by simp)

/-- The value of a positional argument. -/
def positional? : Word → Option Json
  | positional value => some value
  | keyword .. => none

/-- The name and the value of a keyword argument. -/
def keyword? : Word → Option (String × Json)
  | positional _ => none
  | keyword name value => some (name, value)

end Word

/-! ## Arguments -/

/-- The names of the keyword arguments are identifiers, and all values can be restored from their
texts. -/
structure Writable (args : Arguments) : Prop where
  positional : ∀ value ∈ args.positional, value.Restorable
  keyword : ∀ entry ∈ args.keyword.entries,
    isIdentifier entry.1.toList = true ∧ entry.2.Restorable

/-- The words stand for the arguments: those of either mode are there in order, and the two modes
may be mixed in any way. -/
structure Spells (words : List Word) (args : Arguments) : Prop where
  positional : words.filterMap Word.positional? = args.positional
  keyword : words.filterMap Word.keyword? = args.keyword.entries

section Arguments

variable {words : List Word} {args : Arguments}

/-- The words that spell writable arguments can be read. -/
theorem Spells.readable (h : Spells words args) (hargs : Writable args) {word : Word}
    (hword : word ∈ words) : word.Readable := by
  cases word with
  | positional value =>
    refine hargs.positional value ?_
    rw [← h.positional]
    exact List.mem_filterMap.mpr ⟨_, hword, rfl⟩
  | keyword name value =>
    refine hargs.keyword (name, value) ?_
    rw [← h.keyword]
    exact List.mem_filterMap.mpr ⟨_, hword, rfl⟩

/-- Words are added to the arguments of their mode. -/
private theorem foldl_addTo (words : List Word) (args : Arguments) :
    (words.foldl (fun args word => word.addTo args) args).positional =
        args.positional ++ words.filterMap Word.positional? ∧
      (words.foldl (fun args word => word.addTo args) args).keyword.entries =
        Entries.setAll args.keyword.entries (words.filterMap Word.keyword?) := by
  induction words generalizing args with
  | nil => exact ⟨(List.append_nil _).symm, rfl⟩
  | cons word rest ih =>
    obtain ⟨hpositional, hkeyword⟩ := ih (word.addTo args)
    rw [List.foldl_cons, hpositional, hkeyword]
    cases word with
    | positional value => exact ⟨List.append_assoc .., rfl⟩
    | keyword name value => exact ⟨rfl, rfl⟩

/-- Words that stand for arguments are read as these arguments. -/
theorem readArguments_of_spells (h : Spells words args) (hargs : Writable args) :
    readArguments (words.map Word.write) = args := by
  have hread : readArguments (words.map Word.write) =
      words.foldl (fun args word => word.addTo args) .none := by
    rw [readArguments, List.foldl_map]
    refine List.foldl_ext _ _ _ fun args word hword => ?_
    rw [Word.read_write (h.readable hargs hword)]
  obtain ⟨hpositional, hkeyword⟩ := foldl_addTo words .none
  have hset : Entries.setAll [] args.keyword.entries = args.keyword.entries :=
    Entries.setAll_of_distinct ((List.nil_append _).symm ▸ args.keyword.distinct)
  rw [← hread, h.positional] at hpositional
  rw [← hread, h.keyword] at hkeyword
  have htable : (readArguments (words.map Word.write)).keyword = args.keyword := by
    rw [Table.mk.injEq]
    exact hkeyword.trans hset
  rw [Arguments.mk.injEq]
  exact ⟨hpositional, htable⟩

end Arguments

/-! ## Options -/

/-- The text is one of the words that start an option. -/
def IsFlag (text : String) : Prop :=
  text = "--model" ∨ text = "--endpoint"

instance (text : String) : Decidable (IsFlag text) :=
  inferInstanceAs (Decidable (_ ∨ _))

/-- The word of an argument does not start an option. -/
theorem Word.not_isFlag_write {word : Word} (h : word.Readable) : ¬IsFlag word.write := by
  rintro (hflag | hflag)
  · exact write_ne_of_unreadable h (by decide) (by decide +kernel) hflag
  · exact write_ne_of_unreadable h (by decide) (by decide +kernel) hflag

/-- A part of a command line: an option with its value, or a word that is none. -/
inductive Piece where
  | word (text : String)
  | model (path : String)
  | endpoint (url : String)

namespace Piece

/-- The words of a part. -/
def write : Piece → List String
  | word text => [text]
  | model path => ["--model", path]
  | endpoint url => ["--endpoint", url]

/-- The word that is no option. -/
def word? : Piece → Option String
  | word text => some text
  | _ => none

/-- The file of the model. -/
def model? : Piece → Option String
  | model path => some path
  | _ => none

/-- The endpoint. -/
def endpoint? : Piece → Option String
  | endpoint url => some url
  | _ => none

end Piece

namespace Options

/-- A word that is no flag is left for the call. -/
theorem readWords_cons_of_not_isFlag {word : String} (h : ¬IsFlag word) (options : Options)
    (words : List String) : options.readWords (word :: words) =
      readWords { options with rest := options.rest ++ [word] } words := by
  rw [readWords]
  · rintro _ _ rfl
    exact absurd (.inl rfl) h
  · rintro rfl
    exact absurd (.inl rfl) h
  · rintro _ _ rfl
    exact absurd (.inr rfl) h
  · rintro rfl
    exact absurd (.inr rfl) h

private theorem getLast?_cons_or (first : String) (others : List String) (old : Option String) :
    (first :: others).getLast?.or old = others.getLast?.or (some first) := by
  cases others with
  | nil => rfl
  | cons second others => simp [List.getLast?_cons]

/-- Options are read wherever they stand, and the last of each counts. -/
theorem readWords_write {pieces : List Piece}
    (hplain : ∀ text ∈ pieces.filterMap Piece.word?, ¬IsFlag text) (options : Options) :
    options.readWords (pieces.flatMap Piece.write) = .ok
      ⟨(pieces.filterMap Piece.model?).getLast?.or options.model,
        (pieces.filterMap Piece.endpoint?).getLast?.or options.endpoint,
        options.rest ++ pieces.filterMap Piece.word?⟩ := by
  induction pieces generalizing options with
  | nil => simp [readWords]
  | cons piece rest ih =>
    rw [List.flatMap_cons]
    cases piece with
    | word text =>
      obtain ⟨htext, hrest⟩ := List.forall_mem_cons.mp hplain
      rw [Piece.write, List.singleton_append, readWords_cons_of_not_isFlag htext, ih hrest]
      exact congrArg (fun words => Except.ok (Options.mk _ _ words)) (List.append_assoc ..)
    | model path =>
      rw [Piece.write, List.cons_append, List.singleton_append, readWords, ih hplain]
      exact congrArg (fun found => Except.ok (Options.mk found _ _)) (getLast?_cons_or ..).symm
    | endpoint url =>
      rw [Piece.write, List.cons_append, List.singleton_append, readWords, ih hplain]
      exact congrArg (fun found => Except.ok (Options.mk _ found _)) (getLast?_cons_or ..).symm

end Options

/-! ## Calls -/

/-- Write the operation of a call and a word for each of its arguments, those of either mode in
order, and put options with any values at any place, at least one of them for the model. Whatever
the environment, this command line is read as that call, with the last model and the last
endpoint. -/
theorem readCall_of_written (environment : Environment) {operation : String} {args : Arguments}
    {words : List Word} {pieces : List Piece} (hoperation : ¬IsFlag operation)
    (hargs : Writable args) (hwords : Spells words args)
    (hpieces : pieces.filterMap Piece.word? = operation :: words.map Word.write)
    (hmodel : pieces.filterMap Piece.model? ≠ []) :
    ∃ request, readRequest environment (pieces.flatMap Piece.write) = .ok request ∧
      some request.model = (pieces.filterMap Piece.model?).getLast? ∧
      request.endpoint = (pieces.filterMap Piece.endpoint?).getLast? ∧
      readCall request.rest = .ok (operation, args) := by
  have hplain : ∀ text ∈ pieces.filterMap Piece.word?, ¬IsFlag text := by
    rw [hpieces, List.forall_mem_cons, List.forall_mem_map]
    exact ⟨hoperation, fun word hword => Word.not_isFlag_write (hwords.readable hargs hword)⟩
  have hlast := List.getLast?_eq_some_getLast hmodel
  refine ⟨⟨_, (pieces.filterMap Piece.endpoint?).getLast?, operation :: words.map Word.write⟩,
    ?_, hlast.symm, rfl, ?_⟩
  · rw [readRequest, Options.readWords_write hplain]
    rw [hlast, hpieces]
    exact congrArg (fun url => Except.ok (Request.mk _ url _)) (Option.or_none ..)
  · rw [readCall, readArguments_of_spells hwords hargs]

/-- Arguments of both modes, whose texts have equality signs and braces. -/
def mixedArguments : Arguments :=
  .ofLists [.array [.number (.integer 1 (by decide)), .string "a=b"]]
    [("x", .object [("y", .number (.integer (-5) (by decide)))])]

/-- The same arguments, as words. -/
def mixedWords : List Word :=
  [.keyword "x" (.object [("y", .number (.integer (-5) (by decide)))]),
    .positional (.array [.number (.integer 1 (by decide)), .string "a=b"])]

private theorem writable_mixedArguments : Writable mixedArguments where
  positional value hvalue := by
    obtain rfl := List.mem_singleton.mp hvalue
    exact ⟨by simp [Json.Distinct, Json.DistinctItems],
      by simp [Json.Integral, Json.IntegralItems, Json.Number.isInteger], by decide⟩
  keyword entry hentry := by
    obtain rfl := List.mem_singleton.mp hentry
    exact ⟨by decide, by simp [Json.Distinct, Json.DistinctMembers, Entries.Distinct],
      by simp [Json.Integral, Json.IntegralMembers, Json.Number.isInteger], by decide⟩

/-- A command line with options before, between and behind the arguments of a call. -/
theorem readCall_of_written_mixed : ∃ request,
    readRequest ⟨[]⟩ ["--model", "a.json", "paint", "--endpoint", "--model", "x=\x7b\"y\":-5\x7d",
      "[1,\"a=b\"]", "--model", "b.json"] = .ok request ∧
    request.model = "b.json" ∧ request.endpoint = some "--model" ∧
    readCall request.rest = .ok ("paint", mixedArguments) := by
  obtain ⟨request, hrequest, hmodel, hendpoint, hcall⟩ := readCall_of_written ⟨[]⟩
    (show ¬IsFlag "paint" by decide) writable_mixedArguments
    (show Spells mixedWords mixedArguments from ⟨by decide, by decide⟩)
    (show [Piece.model "a.json", .word "paint", .endpoint "--model",
        .word "x=\x7b\"y\":-5\x7d", .word "[1,\"a=b\"]", .model "b.json"].filterMap Piece.word? =
      "paint" :: mixedWords.map Word.write by decide +kernel)
    (by decide)
  exact ⟨request, hrequest, Option.some.inj hmodel, hendpoint, hcall⟩

end SchemaCall.CommandLine
