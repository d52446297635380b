import Graft.Proofs.Text.Numeral
import Graft.Proofs.Text.Pieces

/-!
# The grammar of written conditions

Which texts are written conditions, and what is wrong with all the others.

* `SpecPieces`, `LineTest.IsNamed`, `Condition.IsWritten`: the grammar.
* `SpecError.IsFault`: the faults, of which the leftmost counts.
* `Condition.ofSpec_eq_ok_iff`, `Condition.ofSpec_eq_error_iff`: exactly the texts of the grammar
  are read, and for every other text its fault is told.
* `Condition.ofSpec_grammar`: all of this, and which conditions can be written.
-/

namespace Graft

/-- The pieces of a text that is cut at its first two colons, or at its only one. -/
inductive SpecPieces : (spec offset kind : Text) → (text? : Option Text) → Prop
  /-- There is one colon. -/
  | short {offset kind : Text} (hoffset : ':' ∉ offset) (hkind : ':' ∉ kind) :
    SpecPieces (offset ++ ':' :: kind) offset kind none
  /-- There are two colons or more; all but two are in the last piece. -/
  | long {offset kind text : Text} (hoffset : ':' ∉ offset) (hkind : ':' ∉ kind) :
    SpecPieces (offset ++ ':' :: (kind ++ ':' :: text)) offset kind (some text)

namespace LineTest

/-- The kinds that a written condition may name. -/
def kinds : List String :=
  ["equals", "trimmed", "contains", "starts-with", "blank"]

/-- The tests that the name of a kind and a text stand for. -/
inductive IsNamed : String → Option Text → LineTest → Prop
  /-- The text may be empty, but it has to be there. -/
  | equals (text : Text) : IsNamed "equals" (some text) (equals text)
  /-- The text is not empty. -/
  | equalsTrimmed {text : Text} (h : text ≠ []) : IsNamed "trimmed" (some text) (equalsTrimmed text)
  /-- The text is not empty. -/
  | contains {text : Text} (h : text ≠ []) : IsNamed "contains" (some text) (contains text)
  /-- The text is not empty. -/
  | startsWith {text : Text} (h : text ≠ []) : IsNamed "starts-with" (some text) (startsWith text)
  /-- There is no text. -/
  | blank : IsNamed "blank" none blank
  /-- The text is empty. -/
  | blankOfEmpty : IsNamed "blank" (some []) blank

/-- A test that can be written: only an exact test can look for the empty text. -/
def IsLegal : LineTest → Prop
  | equals _ | blank => True
  | equalsTrimmed text | contains text | startsWith text => text ≠ []

end LineTest

namespace SpecError

/-- What is wrong with a kind and a text that stand for no test. -/
inductive IsTestFault : (kind : Text) → (text? : Option Text) → SpecError → Prop
  /-- There is no such kind. -/
  | unknownKind {kind : Text} {text? : Option Text}
    (h : String.ofList kind.trim ∉ LineTest.kinds) :
    IsTestFault kind text? (.unknownKind kind.trim)
  /-- The kind takes a text, and there is none. -/
  | missingText {kind : Text} (h : String.ofList kind.trim ∈ LineTest.kinds)
    (hblank : String.ofList kind.trim ≠ "blank") :
    IsTestFault kind none (.missingText kind)
  /-- The kind takes a text that is not empty, and it is. -/
  | emptyText {kind : Text} (h : String.ofList kind.trim ∈ LineTest.kinds)
    (hblank : String.ofList kind.trim ≠ "blank") (hequals : String.ofList kind.trim ≠ "equals") :
    IsTestFault kind (some []) (.missingText kind)
  /-- The kind takes no text, and there is one. -/
  | unexpectedText {kind text : Text} (h : String.ofList kind.trim = "blank") (htext : text ≠ []) :
    IsTestFault kind (some text) .unexpectedText

/-- What is wrong with a text that is no written condition. What stands further to the left counts
first. -/
inductive IsFault : Text → SpecError → Prop
  /-- There is no colon. -/
  | malformed {spec : Text} (h : ':' ∉ spec) : IsFault spec (.malformed spec)
  /-- The offset is no numeral, or one of an integer that 64 bits do not hold. -/
  | invalidOffset {spec offset kind : Text} {text? : Option Text}
    (h : SpecPieces spec offset kind text?)
    (hoffset : ∀ n : Int64, ¬offset.trim.IsNumeral n.toInt) :
    IsFault spec (.invalidOffset offset)
  /-- The kind and the text stand for no test. -/
  | test {spec offset kind : Text} {text? : Option Text} {n : Int64} {e : SpecError}
    (h : SpecPieces spec offset kind text?) (hoffset : offset.trim.IsNumeral n.toInt)
    (htest : IsTestFault kind text? e) : IsFault spec e

end SpecError

namespace LineTest

variable {kind : Text} {text? : Option Text} {test : LineTest} {e : SpecError}

/-- What a kind and a text are read as, where they stand for a test. -/
theorem ofSpec_of_isNamed (h : IsNamed (String.ofList kind.trim) text? test) :
    ofSpec kind text? = .ok test := by
  generalize hname : String.ofList kind.trim = name at h
  cases h with
  | equals text => simp [ofSpec, hname]
  | @equalsTrimmed text h | @contains text h | @startsWith text h =>
    obtain ⟨c, t, rfl⟩ := List.exists_cons_of_ne_nil h
    simp [ofSpec, hname]
  | blank => simp [ofSpec, hname]
  | blankOfEmpty => simp [ofSpec, hname]

/-- The kinds of which one is meant by the name `name`. -/
theorem mem_kinds_iff {name : String} : name ∈ kinds ↔
    name = "equals" ∨ name = "trimmed" ∨ name = "contains" ∨ name = "starts-with" ∨
      name = "blank" := by
  simp [kinds]

theorem ofSpec_of_isTestFault (h : e.IsTestFault kind text?) : ofSpec kind text? = .error e := by
  cases h with
  | unknownKind h =>
    simp only [mem_kinds_iff, not_or] at h
    simp [ofSpec, h]
  | missingText h hblank =>
    rcases mem_kinds_iff.1 h with h | h | h | h | h
    · simp [ofSpec, h]
    · simp [ofSpec, h]
    · simp [ofSpec, h]
    · simp [ofSpec, h]
    · exact absurd h hblank
  | emptyText h hblank hequals =>
    rcases mem_kinds_iff.1 h with h | h | h | h | h
    · exact absurd h hequals
    · simp [ofSpec, h]
    · simp [ofSpec, h]
    · simp [ofSpec, h]
    · exact absurd h hblank
  | unexpectedText h htext =>
    obtain ⟨c, t, rfl⟩ := List.exists_cons_of_ne_nil htext
    simp [ofSpec, h]

/-- A kind and a text stand for a test, or something is wrong with them. -/
theorem exists_isNamed_or_isTestFault (kind : Text) (text? : Option Text) :
    (∃ test, IsNamed (String.ofList kind.trim) text? test) ∨
      ∃ e : SpecError, e.IsTestFault kind text? := by
  by_cases hkind : String.ofList kind.trim ∈ kinds
  · by_cases hblank : String.ofList kind.trim = "blank"
    · rw [hblank]
      match text? with
      | none => exact .inl ⟨_, .blank⟩
      | some [] => exact .inl ⟨_, .blankOfEmpty⟩
      | some (c :: t) => exact .inr ⟨_, .unexpectedText hblank (List.cons_ne_nil c t)⟩
    · by_cases hequals : String.ofList kind.trim = "equals"
      · match text? with
        | none => exact .inr ⟨_, .missingText hkind hblank⟩
        | some text => exact .inl ⟨equals text, hequals ▸ .equals text⟩
      · match text? with
        | none => exact .inr ⟨_, .missingText hkind hblank⟩
        | some [] => exact .inr ⟨_, .emptyText hkind hblank hequals⟩
        | some (c :: t) =>
          have htext : c :: t ≠ [] := List.cons_ne_nil c t
          rcases mem_kinds_iff.1 hkind with h | h | h | h | h
          · exact absurd h hequals
          · exact .inl ⟨equalsTrimmed (c :: t), h ▸ .equalsTrimmed htext⟩
          · exact .inl ⟨contains (c :: t), h ▸ .contains htext⟩
          · exact .inl ⟨startsWith (c :: t), h ▸ .startsWith htext⟩
          · exact absurd h hblank
  · exact .inr ⟨_, .unknownKind hkind⟩

theorem kind_mem_kinds (test : LineTest) : test.kind ∈ kinds := by
  cases test <;> simp [kind, kinds]

/-- There is no colon and no white space in the name of a kind. -/
theorem forall_mem_kind (test : LineTest) :
    ∀ c ∈ test.kind.toList, c ≠ ':' ∧ Text.isSpace c = false := by
  have hkinds : ∀ name ∈ kinds, name.toList.all fun c => c ≠ ':' && !Text.isSpace c := by decide
  simpa using hkinds _ test.kind_mem_kinds

/-- Only legal tests have a name. -/
theorem IsNamed.isLegal {name : String} (h : IsNamed name text? test) : test.IsLegal := by
  cases h with
  | equals | blank | blankOfEmpty => trivial
  | equalsTrimmed h | contains h | startsWith h => exact h

/-- A legal test is named by its own kind and text. -/
theorem IsLegal.isNamed (h : test.IsLegal) : IsNamed test.kind test.literal? test := by
  cases test with
  | equals text => exact .equals text
  | equalsTrimmed text => exact .equalsTrimmed h
  | contains text => exact .contains h
  | startsWith text => exact .startsWith h
  | blank => exact .blank

end LineTest

namespace Condition

variable {spec offset kind : Text} {text? : Option Text} {c : Condition} {e : SpecError}

/-- The written forms of a condition: a numeral for its offset, and a kind with a text for its test;
white space around the numeral and around the kind does not count. -/
def IsWritten (spec : Text) (c : Condition) : Prop :=
  ∃ offset kind text?, SpecPieces spec offset kind text? ∧
    offset.trim.IsNumeral c.offset.toInt ∧ c.test.IsNamed (String.ofList kind.trim) text?

/-- Only a text without a colon has no pieces. -/
theorem exists_specPieces (h : ':' ∈ spec) :
    ∃ offset kind text?, SpecPieces spec offset kind text? := by
  cases hcut : Text.cut? ':' spec with
  | none => exact absurd h (Text.cut?_eq_none_iff.1 hcut)
  | some pieces =>
    obtain ⟨offset, rest⟩ := pieces
    obtain ⟨rfl, hoffset⟩ := Text.cut?_eq_some_iff.1 hcut
    cases hcut' : Text.cut? ':' rest with
    | none => exact ⟨_, _, _, .short hoffset (Text.cut?_eq_none_iff.1 hcut')⟩
    | some pieces =>
      obtain ⟨kind, text⟩ := pieces
      obtain ⟨rfl, hkind⟩ := Text.cut?_eq_some_iff.1 hcut'
      exact ⟨_, _, _, .long hoffset hkind⟩

/-- A written condition is read piece by piece, the offset first. -/
theorem ofSpec_of_specPieces (h : SpecPieces spec offset kind text?) :
    ofSpec spec =
      match Text.readInt64? offset.trim with
      | none => .error (.invalidOffset offset)
      | some n => (LineTest.ofSpec kind text?).map (Condition.mk n) := by
  cases h with
  | @short _ _ hoffset hkind =>
    have hcut : Text.cut? ':' (offset ++ ':' :: kind) = some (offset, kind) :=
      Text.cut?_eq_some_iff.2 ⟨rfl, hoffset⟩
    cases hread : Text.readInt64? offset.trim with
    | none => simp only [ofSpec, hcut, hread]
    | some n => simp only [ofSpec, hcut, hread, Text.cut?_eq_none_iff.2 hkind]
  | @long _ _ text hoffset hkind =>
    have hcut : Text.cut? ':' (offset ++ ':' :: (kind ++ ':' :: text)) =
        some (offset, kind ++ ':' :: text) := Text.cut?_eq_some_iff.2 ⟨rfl, hoffset⟩
    have hcut' : Text.cut? ':' (kind ++ ':' :: text) = some (kind, text) :=
      Text.cut?_eq_some_iff.2 ⟨rfl, hkind⟩
    cases hread : Text.readInt64? offset.trim with
    | none => simp only [ofSpec, hcut, hread]
    | some n => simp only [ofSpec, hcut, hcut', hread]

theorem ofSpec_of_isWritten (h : c.IsWritten spec) : ofSpec spec = .ok c := by
  obtain ⟨offset, kind, text?, hpieces, hoffset, htest⟩ := h
  rw [ofSpec_of_specPieces hpieces, Text.readInt64?_eq_some_iff.2 hoffset,
    LineTest.ofSpec_of_isNamed htest]
  rfl

theorem ofSpec_of_isFault (h : e.IsFault spec) : ofSpec spec = .error e := by
  cases h with
  | malformed hcolon => rw [ofSpec, Text.cut?_eq_none_iff.2 hcolon]
  | invalidOffset hpieces hoffset =>
    have hread : Text.readInt64? (Text.trim _) = none :=
      Option.eq_none_iff_forall_ne_some.2 fun n hn => hoffset n (Text.readInt64?_eq_some_iff.1 hn)
    rw [ofSpec_of_specPieces hpieces, hread]
  | test hpieces hoffset htest =>
    rw [ofSpec_of_specPieces hpieces, Text.readInt64?_eq_some_iff.2 hoffset,
      LineTest.ofSpec_of_isTestFault htest]
    rfl

/-- A text is a written condition, or something is wrong with it. -/
theorem exists_isWritten_or_isFault (spec : Text) :
    (∃ c : Condition, c.IsWritten spec) ∨ ∃ e : SpecError, e.IsFault spec := by
  by_cases hcolon : ':' ∈ spec
  · obtain ⟨offset, kind, text?, hpieces⟩ := exists_specPieces hcolon
    by_cases hoffset : ∃ n : Int64, offset.trim.IsNumeral n.toInt
    · obtain ⟨n, hn⟩ := hoffset
      rcases LineTest.exists_isNamed_or_isTestFault kind text? with ⟨test, htest⟩ | ⟨e, he⟩
      · exact .inl ⟨⟨n, test⟩, offset, kind, text?, hpieces, hn, htest⟩
      · exact .inr ⟨e, .test hpieces hn he⟩
    · exact .inr ⟨_, .invalidOffset hpieces (not_exists.1 hoffset)⟩
  · exact .inr ⟨_, .malformed hcolon⟩

/-- The conditions that are read are those that are written. -/
theorem ofSpec_eq_ok_iff : ofSpec spec = .ok c ↔ c.IsWritten spec := by
  refine ⟨fun h => ?_, ofSpec_of_isWritten⟩
  rcases exists_isWritten_or_isFault spec with ⟨written, hwritten⟩ | ⟨e, he⟩
  · rw [ofSpec_of_isWritten hwritten] at h
    exact Except.ok.inj h ▸ hwritten
  · rw [ofSpec_of_isFault he] at h
    cases h

/-- Of every other text its fault is told. -/
theorem ofSpec_eq_error_iff : ofSpec spec = .error e ↔ e.IsFault spec := by
  refine ⟨fun h => ?_, ofSpec_of_isFault⟩
  rcases exists_isWritten_or_isFault spec with ⟨written, hwritten⟩ | ⟨fault, hfault⟩
  · rw [ofSpec_of_isWritten hwritten] at h
    cases h
  · rw [ofSpec_of_isFault hfault] at h
    exact Except.error.inj h ▸ hfault

/-- Up to its first colon a written condition has only digits, signs and white space. -/
theorem IsWritten.isDigit_or_sign_or_isSpace {front rest : Text} (h : c.IsWritten (front ++ rest))
    (hfront : ':' ∉ front) {d : Char} (hd : d ∈ front) :
    (d.isDigit ∨ d = '+' ∨ d = '-') ∨ Text.isSpace d := by
  obtain ⟨offset, kind, text?, hpieces, hnumeral, -⟩ := h
  obtain ⟨tail, heq⟩ : ∃ tail, front ++ rest = offset ++ ':' :: tail := by
    generalize front ++ rest = spec at hpieces
    cases hpieces with
    | short => exact ⟨_, rfl⟩
    | long => exact ⟨_, rfl⟩
  -- what has no colon ends where the offset does, or before
  have hoffset : d ∈ offset := by
    rcases List.append_eq_append_iff.1 heq with ⟨between, rfl, -⟩ | ⟨between, rfl, hbetween⟩
    · exact List.mem_append_left _ hd
    · cases between with
      | nil => simpa using hd
      | cons c between =>
        obtain ⟨rfl, -⟩ := List.cons.inj hbetween
        exact absurd (List.mem_append_right _ List.mem_cons_self) hfront
  cases hspace : Text.isSpace d with
  | true => exact .inr rfl
  | false => exact .inl (hnumeral.isDigit_or_sign (Text.mem_trim hoffset hspace))

/-- A written form falls into the offset, the kind and the literal text, none of which has white
space around it. -/
theorem specPieces_toSpec (c : Condition) :
    SpecPieces c.toSpec (toString c.offset.toInt).toList c.test.kind.toList c.test.literal? := by
  have hoffset := (Text.isNumeral_toString c.offset.toInt).colon_not_mem
  have hkind : ':' ∉ c.test.kind.toList := fun h => (c.test.forall_mem_kind _ h).1 rfl
  obtain ⟨offset, test⟩ := c
  cases test with
  | equals text | equalsTrimmed text | contains text | startsWith text =>
    simp only [toSpec, LineTest.literal?, List.append_assoc, List.cons_append]
    exact .long hoffset hkind
  | blank =>
    simp only [toSpec, LineTest.literal?, List.append_nil]
    exact .short hoffset hkind

theorem isWritten_toSpec (h : c.test.IsLegal) : c.IsWritten c.toSpec := by
  have hnumeral := Text.isNumeral_toString c.offset.toInt
  have hkind : Text.trim c.test.kind.toList = c.test.kind.toList :=
    Text.trim_eq_self fun d hd => (c.test.forall_mem_kind d hd).2
  refine ⟨_, _, _, c.specPieces_toSpec, ?_, ?_⟩
  · rwa [Text.trim_eq_self fun d hd => hnumeral.isSpace_eq_false hd]
  · rw [hkind, String.ofList_toList]
    exact h.isNamed

/-- A text is read as a condition exactly when the grammar has it for a written form of that
condition; of every other text its fault is told, the leftmost one. A condition is read back from
the form that is written for it exactly when its test can be written. -/
theorem ofSpec_grammar (spec : Text) (c : Condition) :
    (ofSpec spec = .ok c ↔ c.IsWritten spec) ∧
      (∀ e, ofSpec spec = .error e ↔ e.IsFault spec) ∧
      (ofSpec c.toSpec = .ok c ↔ c.test.IsLegal) := by
  refine ⟨ofSpec_eq_ok_iff, fun e => ofSpec_eq_error_iff, ?_⟩
  constructor
  · intro h
    obtain ⟨_, _, _, -, -, hnamed⟩ := ofSpec_eq_ok_iff.1 h
    exact hnamed.isLegal
  · exact fun h => ofSpec_of_isWritten (isWritten_toSpec h)

end Condition

end Graft
