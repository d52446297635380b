import Graft.Command.Arguments
import Graft.Proofs.Condition.Grammar

/-!
# How the arguments of a command are read

* `Command.Given.has_of_give`: what is given once one more option is.
* `Command.IsDryRun`: the arguments that hold the flag for a preview.
* `Command.has_dryRun_of_scan`: the flag is given exactly if one of these stands before the first
  two dashes alone.
-/

namespace Graft.Command

variable {usage : Usage} {given after final : Given} {switch : Switch} {waiting : Option Switch}
  {name value argument : String} {letter : Char} {text : Text} {arguments : List String}

/-! ## Options -/

theorem Given.has_iff : given.has name ↔ ∃ value, (name, value) ∈ given.options := by
  simp [Given.has, Given.values]

/-- One more option is given under its own name, and no other. -/
theorem Given.has_of_give (h : given.give switch value = .ok after) :
    after.has name ↔ given.has name ∨ switch.name = name := by
  unfold Given.give at h
  split at h
  next => cases h
  next =>
    split at h
    next => cases h
    next =>
      cases h
      simp only [Given.has_iff, List.mem_append, List.mem_singleton, Prod.mk.injEq]
      grind

/-- An option that is given is not answered at once, and can have its value. -/
theorem Given.admits_of_give (h : given.give switch value = .ok after) :
    switch.arity ≠ .answer ∧ switch.admits value := by
  unfold Given.give at h
  split at h
  next => cases h
  next hanswer =>
    split at h
    next => cases h
    next hadmits => exact ⟨hanswer, by simp_all⟩

/-- An option that is given with its value waits for no other. -/
theorem Given.give_of_map_eq_ok
    (h : (given.give switch value).map (·, none) = .ok (after, waiting)) :
    given.give switch value = .ok after ∧ waiting = none := by
  cases hgive : given.give switch value with
  | error e => rw [hgive] at h; cases h
  | ok after => rw [hgive] at h; cases h; exact ⟨rfl, rfl⟩

/-- A path is no option. -/
theorem Given.has_of_place (h : given.place usage argument = .ok after) :
    after.has name = given.has name := by
  unfold Given.place at h
  split at h
  next => cases h; rfl
  next => cases h

/-! ## The flag for a preview -/

/-- Letters that share a dash, the one for a preview among them: letters of other flags may stand
before it. -/
inductive HoldDryRun : Text → Prop
  /-- The letter comes first. -/
  | here (rest : Text) : HoldDryRun ('n' :: rest)
  /-- The letter comes behind that of another flag. -/
  | later {letter : Char} {rest : Text} (hletter : letter = 'v' ∨ letter = 'd')
    (h : HoldDryRun rest) : HoldDryRun (letter :: rest)

/-- The arguments that hold the flag for a preview. -/
inductive IsDryRun : String → Prop
  /-- The flag by its name. -/
  | name : IsDryRun "--dry-run"
  /-- The flag by its letter. -/
  | letter {text : Text} (h : HoldDryRun text) : IsDryRun (String.ofList ('-' :: text))

/-- What the options of a command have in common if it can be previewed. -/
structure Usage.IsPreviewable (usage : Usage) : Prop where
  /-- The flag for a preview is known by its name and by its letter. -/
  flag : ∀ switch ∈ usage.switches, switch.arity = .flag →
    (switch.name = "dry-run" ↔ switch.letter = some 'n') ∧
      switch.letter ∈ [none, some 'v', some 'd', some 'n']
  /-- An option with a value is none of the flags that have a letter. -/
  valued : ∀ switch ∈ usage.switches, switch.takesValue →
    switch.name ≠ "dry-run" ∧ switch.letter ∉ [some 'v', some 'd', some 'n']
  /-- Only a condition may start with a dash. -/
  repeated : ∀ switch ∈ usage.switches, switch.isRepeated → switch.arity = .repeated .condition

theorem isPreviewable_insertUsage : insertUsage.IsPreviewable :=
  ⟨by decide, by decide, by decide⟩

theorem isPreviewable_applyUsage : applyUsage.IsPreviewable :=
  ⟨by decide, by decide, by decide⟩

theorem holdDryRun_cons :
    HoldDryRun (letter :: text) ↔
      letter = 'n' ∨ (letter = 'v' ∨ letter = 'd') ∧ HoldDryRun text := by
  constructor
  · intro h
    cases h with
    | here => exact .inl rfl
    | later hletter h => exact .inr ⟨hletter, h⟩
  · rintro (rfl | ⟨hletter, h⟩)
    · exact .here text
    · exact .later hletter h

/-- An option that takes no value and is given is a flag. -/
theorem Switch.arity_eq_flag (hvalue : switch.takesValue = false)
    (hanswer : switch.arity ≠ .answer) : switch.arity = .flag := by
  cases h : switch.arity <;> simp_all [Switch.takesValue]

/-- Behind the letter of an option with a value there are no flags. -/
theorem not_holdDryRun_of_takesValue (husage : usage.IsPreviewable)
    (hswitch : switch ∈ usage.switches) (hletter : switch.letter = some letter)
    (hvalue : switch.takesValue) : ¬HoldDryRun (letter :: text) := by
  have hletters := (husage.valued switch hswitch hvalue).2
  rw [hletter] at hletters
  rw [holdDryRun_cons]
  simp_all

/-- An option with a value does not give the flag, whether it has its value or waits for it. -/
theorem has_dryRun_of_takesValue (husage : usage.IsPreviewable) (hswitch : switch ∈ usage.switches)
    (hvalue : switch.takesValue)
    (h : after = given ∧ waiting = some switch ∨
      waiting = none ∧ ∃ value, given.give switch value = .ok after) :
    (after.has "dry-run" ↔ given.has "dry-run") ∧
      ∀ switch ∈ waiting, switch ∈ usage.switches ∧ switch.takesValue := by
  rcases h with ⟨rfl, rfl⟩ | ⟨rfl, value, hgive⟩
  · refine ⟨.rfl, ?_⟩
    rintro _ ⟨⟩
    exact ⟨hswitch, hvalue⟩
  · exact ⟨by rw [Given.has_of_give hgive, or_iff_left (husage.valued switch hswitch hvalue).1],
      nofun⟩

/-- Letters that share a dash give the flag for a preview if they hold its letter. -/
theorem has_dryRun_of_letters (husage : usage.IsPreviewable)
    (h : letters usage.switches given text = .ok (after, waiting)) :
    (after.has "dry-run" ↔ given.has "dry-run" ∨ HoldDryRun text) ∧
      ∀ switch ∈ waiting, switch ∈ usage.switches ∧ switch.takesValue := by
  induction text generalizing given with
  | nil =>
    cases h
    exact ⟨(or_iff_left nofun).symm, nofun⟩
  | cons letter rest ih =>
    simp only [letters] at h
    split at h
    next => cases h
    next switch hfind =>
      have hswitch : switch ∈ usage.switches := List.mem_of_find?_eq_some hfind
      have hletter : switch.letter = some letter := by simpa using List.find?_some hfind
      split at h
      next hvalue =>
        rw [or_iff_left (not_holdDryRun_of_takesValue husage hswitch hletter hvalue)]
        refine has_dryRun_of_takesValue husage hswitch hvalue ?_
        -- what follows the letter is the value, or else the next argument is
        split at h
        next => cases h; exact .inl ⟨rfl, rfl⟩
        all_goals
          obtain ⟨hgive, hnone⟩ := Given.give_of_map_eq_ok h
          exact .inr ⟨hnone, _, hgive⟩
      next hvalue =>
        split at h
        next given' hgive =>
          obtain ⟨hiff, hwaiting⟩ := ih h
          refine ⟨?_, hwaiting⟩
          have harity := Switch.arity_eq_flag (by simpa using hvalue) (Given.admits_of_give hgive).1
          obtain ⟨hname, hletters⟩ := husage.flag switch hswitch harity
          have hflag : letter = 'v' ∨ letter = 'd' ∨ letter = 'n' := by
            simpa [hletter] using hletters
          rw [hiff, Given.has_of_give hgive, holdDryRun_cons, hname, hletter, Option.some.injEq]
          grind
        next => cases h

/-- A name after two dashes gives the flag for a preview if it is the name of the flag. -/
theorem has_dryRun_of_long (husage : usage.IsPreviewable)
    (h : long usage.switches given text = .ok (after, waiting)) :
    (after.has "dry-run" ↔ given.has "dry-run" ∨ text = "dry-run".toList) ∧
      ∀ switch ∈ waiting, switch ∈ usage.switches ∧ switch.takesValue := by
  have hfound : ∀ {name switch},
      (usage.switches.find? fun switch => switch.name = name) = some switch →
        switch ∈ usage.switches ∧ switch.name = name := fun hfind =>
    ⟨List.mem_of_find?_eq_some hfind, by simpa using List.find?_some hfind⟩
  unfold long at h
  cases hcut : Text.cut? '=' text with
  | some pieces =>
    obtain ⟨name, value⟩ := pieces
    obtain ⟨rfl, -⟩ := Text.cut?_eq_some_iff.1 hcut
    have htext : name ++ '=' :: value ≠ "dry-run".toList := fun heq => by
      have hmem : '=' ∈ "dry-run".toList := heq ▸ by simp
      exact absurd hmem (by decide)
    simp only [hcut] at h
    split at h
    next => cases h
    next switch hfind =>
      obtain ⟨hswitch, hname⟩ := hfound hfind
      split at h
      next _ hvalue heq =>
        obtain ⟨hgive, hnone⟩ := Given.give_of_map_eq_ok h
        rw [or_iff_left htext]
        exact has_dryRun_of_takesValue husage hswitch hvalue (.inr ⟨hnone, _, hgive⟩)
      next heq => cases heq
      next => cases h
      next heq => cases heq
  | none =>
    simp only [hcut] at h
    split at h
    next => cases h
    next switch hfind =>
      obtain ⟨hswitch, hname⟩ := hfound hfind
      have hiff : switch.name = "dry-run" ↔ text = "dry-run".toList := by
        rw [hname, ← String.toList_inj, String.toList_ofList]
      split at h
      next heq => cases heq
      next hvalue _ =>
        cases h
        rw [or_iff_left (mt hiff.2 (husage.valued switch hswitch hvalue).1)]
        exact has_dryRun_of_takesValue husage hswitch hvalue (.inl ⟨rfl, rfl⟩)
      next heq => cases heq
      next =>
        obtain ⟨hgive, rfl⟩ := Given.give_of_map_eq_ok h
        exact ⟨by rw [Given.has_of_give hgive, hiff], nofun⟩

/-! ## Arguments -/

theorem isDryRun_iff (h : argument.toList = '-' :: letter :: text) :
    IsDryRun argument ↔
      letter = '-' ∧ text = "dry-run".toList ∨ HoldDryRun (letter :: text) := by
  have hargument : argument = String.ofList ('-' :: letter :: text) := by
    rw [← h, String.ofList_toList]
  constructor
  · intro hdry
    generalize harg : argument = argument' at hdry
    cases hdry with
    | name =>
      rw [harg] at h
      have : ("--dry-run" : String).toList = '-' :: '-' :: "dry-run".toList := by decide
      rw [this] at h
      cases h
      exact .inl ⟨rfl, rfl⟩
    | letter hhold =>
      rw [harg, String.toList_ofList] at h
      cases h
      exact .inr hhold
  · rintro (⟨rfl, rfl⟩ | hhold)
    · rw [hargument]
      exact .name
    · rw [hargument]
      exact .letter hhold

/-- No argument with the flag for a preview is a written condition, nor are two dashes alone. -/
theorem not_admits_condition (h : argument = "--" ∨ IsDryRun argument) :
    Kind.condition.admits argument = false := by
  have hletter : ∀ {text}, HoldDryRun text → ∀ c, ¬Condition.IsWritten ('-' :: text) c := by
    intro text hhold c hwritten
    obtain ⟨letter, rest, rfl, hn⟩ : ∃ letter rest, text = letter :: rest ∧
        (letter = 'n' ∨ letter = 'v' ∨ letter = 'd') := by
      cases hhold with
      | here rest => exact ⟨_, _, rfl, .inl rfl⟩
      | later hletter _ => exact ⟨_, _, rfl, .inr hletter⟩
    -- a letter is nothing that stands before the first colon of a condition
    have hfront : ':' ∉ ['-', letter] ∧
        ¬((letter.isDigit ∨ letter = '+' ∨ letter = '-') ∨ Text.isSpace letter) := by
      rcases hn with rfl | rfl | rfl <;> decide
    exact hfront.2 (hwritten.isDigit_or_sign_or_isSpace hfront.1 (by simp))
  rcases h with rfl | h
  · decide
  · cases h with
    | name => decide
    | letter hhold =>
      rw [Kind.admits, String.toList_ofList]
      cases hspec : Condition.ofSpec ('-' :: _) with
      | error e => rfl
      | ok c => exact absurd (Condition.ofSpec_eq_ok_iff.1 hspec) (hletter hhold c)

theorem isDashed_iff :
    isDashed argument ↔ ∃ letter text, argument.toList = '-' :: letter :: text := by
  unfold isDashed
  split <;> simp_all

theorem isDashed_of_isDryRun (h : IsDryRun argument) : isDashed argument := by
  cases h with
  | name => decide
  | letter hhold => cases hhold <;> simp [isDashed]

/-- The value that an option waits for has the flag for a preview in it no more than two dashes. -/
theorem not_isDryRun_of_give (husage : usage.IsPreviewable) (hswitch : switch ∈ usage.switches)
    (hdashed : ¬(!switch.isRepeated && isDashed argument))
    (h : given.give switch argument = .ok after) : argument ≠ "--" ∧ ¬IsDryRun argument := by
  rw [← not_or]
  intro hflag
  have hdash : isDashed argument := by
    rcases hflag with rfl | hdry
    · decide
    · exact isDashed_of_isDryRun hdry
  -- only a condition may start with a dash, but this is none
  have hrepeated : switch.isRepeated := by simpa [hdash] using hdashed
  have hadmits := (Given.admits_of_give h).2
  simp only [Switch.admits, husage.repeated switch hswitch hrepeated, not_admits_condition hflag,
    Bool.false_eq_true] at hadmits

/-- An argument that is read as itself, and is not two dashes alone, gives the flag for a preview if
it holds it. -/
theorem has_dryRun_of_scan_cons (husage : usage.IsPreviewable) (hdashes : argument ≠ "--")
    (h : scan usage given false none (argument :: arguments) = .ok final) :
    ∃ after waiting, scan usage after false waiting arguments = .ok final ∧
      (after.has "dry-run" ↔ given.has "dry-run" ∨ IsDryRun argument) ∧
        ∀ switch ∈ waiting, switch ∈ usage.switches ∧ switch.takesValue := by
  simp only [scan] at h
  split at h
  next hargument =>
    have hlist : "--".toList = ['-', '-'] := by decide
    exact absurd (String.toList_inj.1 (hargument.trans hlist.symm)) hdashes
  next text _ hargument =>
    cases hlong : long usage.switches given text with
    | error e => rw [hlong] at h; cases h
    | ok read =>
      rw [hlong] at h
      obtain ⟨hread, hwaiting⟩ := has_dryRun_of_long husage hlong
      have hdry : IsDryRun argument ↔ text = "dry-run".toList := by
        simp [isDryRun_iff hargument, holdDryRun_cons]
      exact ⟨read.1, read.2, h, by rw [hread, hdry], hwaiting⟩
  next letter text _ hdash hargument =>
    cases hletters : letters usage.switches given (letter :: text) with
    | error e => rw [hletters] at h; cases h
    | ok read =>
      rw [hletters] at h
      obtain ⟨hread, hwaiting⟩ := has_dryRun_of_letters husage hletters
      have hdry : IsDryRun argument ↔ HoldDryRun (letter :: text) := by
        rw [isDryRun_iff hargument, or_iff_right fun h => hdash h.1]
      exact ⟨read.1, read.2, h, by rw [hread, hdry], hwaiting⟩
  next _ _ hshort =>
    cases hplace : given.place usage argument with
    | error e => rw [hplace] at h; cases h
    | ok after =>
      rw [hplace] at h
      have hdry : ¬IsDryRun argument := fun hdry => by
        obtain ⟨letter, text, hargument⟩ := isDashed_iff.1 (isDashed_of_isDryRun hdry)
        exact hshort letter text hargument
      exact ⟨after, none, h, by rw [Given.has_of_place hplace, or_iff_left hdry], by simp⟩

/-- Arguments give the flag for a preview if one of them holds it, up to the first two dashes
alone. -/
theorem has_dryRun_of_scan (husage : usage.IsPreviewable) {positionalOnly : Bool}
    (hwaiting : ∀ switch ∈ waiting, switch ∈ usage.switches ∧ switch.takesValue)
    (h : scan usage given positionalOnly waiting arguments = .ok final) :
    final.has "dry-run" ↔ given.has "dry-run" ∨
      positionalOnly = false ∧ ∃ argument ∈ arguments.takeWhile (· ≠ "--"), IsDryRun argument := by
  induction arguments generalizing given positionalOnly waiting with
  | nil =>
    cases waiting with
    | none => simp only [scan] at h; cases h; simp
    | some switch => simp only [scan] at h; cases h
  | cons argument rest ih =>
    have hcons : argument ≠ "--" →
        ((∃ other ∈ (argument :: rest).takeWhile (· ≠ "--"), IsDryRun other) ↔
          IsDryRun argument ∨ ∃ other ∈ rest.takeWhile (· ≠ "--"), IsDryRun other) := by
      intro hdashes
      rw [List.takeWhile_cons_of_pos (by simpa using hdashes)]
      simp
    match waiting, positionalOnly with
    | some switch, positionalOnly =>
      -- the argument is the value of an option that is not the flag
      obtain ⟨hswitch, hvalue⟩ := hwaiting switch rfl
      simp only [scan] at h
      split at h
      next => cases h
      next hdashed =>
        cases hgive : given.give switch argument with
        | error e => rw [hgive] at h; cases h
        | ok given' =>
          rw [hgive] at h
          have hname := (husage.valued switch hswitch hvalue).1
          obtain ⟨hdashes, hdry⟩ := not_isDryRun_of_give husage hswitch hdashed hgive
          rw [ih (by simp) h, Given.has_of_give hgive, or_iff_left hname, hcons hdashes,
            or_iff_right hdry]
    | none, true =>
      simp only [scan] at h
      cases hplace : given.place usage argument with
      | error e => rw [hplace] at h; cases h
      | ok given' =>
        rw [hplace] at h
        rw [ih (by simp) h, Given.has_of_place hplace]
        simp
    | none, false =>
      by_cases hdashes : argument = "--"
      · subst hdashes
        have hscan : scan usage given true none rest = .ok final := h
        rw [ih (by simp) hscan]
        simp
      · obtain ⟨after, waiting, hscan, hread, hwaiting⟩ := has_dryRun_of_scan_cons husage hdashes h
        rw [ih hwaiting hscan, hread, hcons hdashes]
        simp only [true_and, or_assoc]

end Graft.Command
