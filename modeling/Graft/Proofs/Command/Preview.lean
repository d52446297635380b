import Graft.Proofs.Command.Arguments
import Graft.Proofs.Command.Effects

/-!
# Previews keep all files

* `Command.IsPreview`: the command lines that ask for nothing to be written.
* `Command.mode_eq_preview_iff`: these, and no others, are run as previews.
* `Command.previews_keep_files`: a preview leaves the files as they were, whatever it comes to.
-/

namespace Graft

namespace FileSystem

variable {fs after : FileSystem}

/-- Previews of edits lead nowhere. -/
theorem Reaches.eq_of_preview (h : fs.Reaches .preview after) : after = fs := by
  induction h with
  | refl => rfl
  | tail _ hstep ih =>
    obtain ⟨edit, path, rfl⟩ := hstep
    rw [Edit.run_preview, ih]

end FileSystem

namespace Command

variable {arguments : List String} {request : Request} {verbose : Bool} {given : Given}

/-- The command lines that ask for nothing to be written. The command is the first argument that
does not start with a dash. -/
inductive IsPreview (arguments : List String) : Prop
  /-- The arguments ask for nothing sensible. -/
  | misuse (h : Invocation.ofArguments arguments = none)
  /-- Patch files are checked. -/
  | check {rest : List String} (h : arguments.dropWhile isDashed = "check" :: rest)
  /-- An insertion or an application has the flag for a preview. -/
  | dryRun {name : String} {rest : List String} (hname : name = "insert" ∨ name = "apply")
    (h : arguments.dropWhile isDashed = name :: rest)
    (hflag : ∃ argument ∈ rest.takeWhile (· ≠ "--"), IsDryRun argument)

/-- The commands that work on files: how they are called, and what they ask for. -/
inductive IsCommand : String → Usage → (Given → Option Request) → Prop
  /-- A block is inserted into a file. -/
  | insert : IsCommand "insert" insertUsage insertRequest?
  /-- Patch files are applied. -/
  | apply : IsCommand "apply" applyUsage applyRequest?
  /-- Patch files are checked. -/
  | check : IsCommand "check" checkUsage checkRequest?

theorem mode_eq_preview_iff_has : mode given = .preview ↔ given.has "dry-run" := by
  unfold mode
  split <;> simp_all [Switch.dryRun]

theorem mode_of_insertRequest? (h : insertRequest? given = some request) :
    request.mode = mode given := by
  simp only [insertRequest?, Option.bind_eq_bind, Option.bind_eq_some_iff] at h
  obtain ⟨file, -, conditions, -, h⟩ := h
  split at h
  next => cases h
  next =>
    rw [Option.bind_eq_some_iff] at h
    obtain ⟨block, -, heq⟩ := h
    cases heq
    rfl

theorem mode_of_applyRequest? (h : applyRequest? given = some request) :
    request.mode = mode given := by
  simp only [applyRequest?, Option.bind_eq_bind, Option.bind_eq_some_iff] at h
  obtain ⟨config, -, workspace?, -, heq⟩ := h
  cases heq
  rfl

theorem mode_of_checkRequest? (h : checkRequest? given = some request) :
    request.mode = .preview := by
  simp only [checkRequest?, Option.bind_eq_bind, Option.bind_eq_some_iff] at h
  obtain ⟨config, -, workspace?, -, heq⟩ := h
  cases heq
  rfl

/-- What the arguments after the name of a command ask for is what they give. -/
theorem exists_of_ofCommand? {isVerbose : Bool} {usage : Usage} {request? : Given → Option Request}
    (h : ofCommand? isVerbose usage request? arguments = some (.request request verbose)) :
    ∃ given, scan usage {} false none arguments = .ok given ∧ request? given = some request := by
  unfold ofCommand? at h
  split at h
  next given hscan =>
    rw [Option.map_eq_some_iff] at h
    obtain ⟨request', hrequest, heq⟩ := h
    cases heq
    exact ⟨given, hscan, hrequest⟩
  next => cases h
  next => cases h

/-- A request comes from the arguments after the name of a command. -/
theorem exists_command_of_ofArguments
    (h : Invocation.ofArguments arguments = some (.request request verbose)) :
    ∃ name rest usage request? given, arguments.dropWhile isDashed = name :: rest ∧
      IsCommand name usage request? ∧ scan usage {} false none rest = .ok given ∧
        request? given = some request := by
  have hdrop : arguments.drop (arguments.takeWhile isDashed).length =
      arguments.dropWhile isDashed := by
    calc arguments.drop (arguments.takeWhile isDashed).length
        = (arguments.takeWhile isDashed ++ arguments.dropWhile isDashed).drop
            (arguments.takeWhile isDashed).length := by rw [List.takeWhile_append_dropWhile]
      _ = arguments.dropWhile isDashed := List.drop_left
  unfold Invocation.ofArguments at h
  simp only [hdrop] at h
  split at h
  next => split at h <;> cases h
  next => cases h
  next =>
    split at h
    next => cases h
    next name rest hrest =>
      split_ifs at h with _ hinsert happly hcheck
      · obtain ⟨given, hscan, hrequest⟩ := exists_of_ofCommand? h
        exact ⟨_, _, _, _, given, hrest, hinsert ▸ .insert, hscan, hrequest⟩
      · obtain ⟨given, hscan, hrequest⟩ := exists_of_ofCommand? h
        exact ⟨_, _, _, _, given, hrest, happly ▸ .apply, hscan, hrequest⟩
      · obtain ⟨given, hscan, hrequest⟩ := exists_of_ofCommand? h
        exact ⟨_, _, _, _, given, hrest, hcheck ▸ .check, hscan, hrequest⟩
      · cases h

/-- A request is met by previews exactly if its command line asks for nothing to be written. -/
theorem mode_eq_preview_iff
    (h : Invocation.ofArguments arguments = some (.request request verbose)) :
    request.mode = .preview ↔ IsPreview arguments := by
  obtain ⟨name, rest, usage, request?, given, hrest, hcommand, hscan, hrequest⟩ :=
    exists_command_of_ofArguments h
  have hflag : usage.IsPreviewable → request.mode = mode given →
      (name = "insert" ∨ name = "apply") → (request.mode = .preview ↔ IsPreview arguments) := by
    intro husage hmode hname
    rw [hmode, mode_eq_preview_iff_has, has_dryRun_of_scan husage (by simp) hscan]
    constructor
    · rintro (hnothing | ⟨-, hdry⟩)
      · cases hnothing
      · exact .dryRun hname hrest hdry
    · intro hpreview
      cases hpreview with
      | misuse hnone => rw [hnone] at h; cases h
      | check hcheck =>
        rw [hrest] at hcheck
        obtain ⟨rfl, -⟩ := List.cons.inj hcheck
        exact absurd hname (by decide)
      | dryRun _ hrest' hdry =>
        rw [hrest] at hrest'
        cases hrest'
        exact .inr ⟨rfl, hdry⟩
  cases hcommand with
  | insert => exact hflag isPreviewable_insertUsage (mode_of_insertRequest? hrequest) (.inl rfl)
  | apply => exact hflag isPreviewable_applyUsage (mode_of_applyRequest? hrequest) (.inr rfl)
  | check => exact iff_of_true (mode_of_checkRequest? hrequest) (.check hrest)

/-- Nothing is written when a command line asks for nothing to be written, and when a patch file is
checked or its application previewed, whatever the files and the patches are and whatever is made of
them. -/
theorem previews_keep_files (fs : FileSystem) :
    (∀ colored arguments, IsPreview arguments → (run colored fs arguments).files = fs) ∧
      (∀ (file : PatchFile) workspace, (file.check fs workspace).2 = fs) ∧
      ∀ (file : PatchFile) workspace, (file.apply fs workspace .preview).2 = fs := by
  refine ⟨fun colored arguments hpreview => ?_, fun file workspace => ?_, fun file workspace => ?_⟩
  · unfold run
    split
    next => rfl
    next => rfl
    next => rfl
    next request verbose hrequest =>
      have hreaches : fs.Reaches request.mode (perform colored verbose fs request).files :=
        reaches_perform request
      rw [(mode_eq_preview_iff hrequest).2 hpreview] at hreaches
      exact hreaches.eq_of_preview
  · exact (PatchFile.reaches_runAll .proceed file.patches fs).eq_of_preview
  · exact (PatchFile.reaches_runAll .stop file.patches fs).eq_of_preview

/-- The letter for a preview may follow that of another flag; without it, the same insertion is
made. -/
theorem previews_keep_files_of_letters :
    let fs : FileSystem := ⟨[(["f"], .file (Text.bytes ['a', '\n']) 0o644)], []⟩
    let arguments := ["insert", "-f", "f", "--when", "0:equals:a", "--text", "N"]
    IsPreview (arguments ++ ["-dn"]) ∧ (run false fs (arguments ++ ["-dn"])).files = fs ∧
      (run false fs (arguments ++ ["-d"])).files ≠ fs := by
  intro fs arguments
  have hpreview : IsPreview (arguments ++ ["-dn"]) := by
    refine .dryRun (.inl rfl) rfl ⟨"-dn", by decide, ?_⟩
    exact .letter (.later (.inr rfl) (.here []))
  exact ⟨hpreview, (previews_keep_files fs).1 false _ hpreview, by decide +kernel⟩

end Command

end Graft
