import FailureIntake.Proofs.Config.Spelling
import FailureIntake.Proofs.Text.Runs

/-! The extension of a path. It is that of the last component, if this is a name, so nothing changes
with slashes and single dots behind it. -/
namespace FailureIntake.Config.Path

/-- An extension follows the last dot of a name, and something stands in front of this dot. -/
theorem extension?_eq_some {name extension : Text.Utf8.Octets} :
    extension? name = some extension ↔
      ∃ stem, stem ≠ [] ∧ dot ∉ extension ∧ name = stem ++ dot :: extension := by
  constructor
  · intro found
    unfold extension? at found
    dsimp only at found
    split at found
    · cases found
    · cases found
    · next kept _ more =>
      cases found
      have whole := List.takeWhile_append_dropWhile (p := (· ≠ dot)) (l := name.reverse)
      have ends := Text.endsRun_dropWhile (p := (· ≠ dot)) name.reverse
      cases rest : name.reverse.dropWhile (· ≠ dot) with
      | nil => exact absurd rest ‹_›
      | cons first stem =>
        rw [rest] at whole ends
        have first : first = dot := by simpa using Text.endsRun_cons.mp ends
        subst first
        refine ⟨stem.reverse, ?_, fun member => ?_, ?_⟩
        · rintro empty
          rw [List.reverse_eq_nil_iff.mp empty] at rest
          exact more _ rest
        · simpa using List.mem_takeWhile_imp (List.mem_reverse.mp member)
        · have name_eq := congrArg List.reverse whole
          simpa using name_eq.symm
  · rintro ⟨stem, some, plain, rfl⟩
    have run : ∀ b ∈ extension.reverse, decide (b ≠ dot) = true := fun b member =>
      decide_eq_true fun same => plain (same ▸ List.mem_reverse.mp member)
    have ends : Text.EndsRun (· ≠ dot) (dot :: stem.reverse) := Text.endsRun_cons.mpr (by simp)
    have reversed : (stem ++ dot :: extension).reverse = extension.reverse ++ dot :: stem.reverse := by simp
    unfold extension?
    dsimp only
    rw [reversed, Text.dropWhile_run run ends, Text.takeWhile_run run ends, List.reverse_reverse]
    cases given : stem.reverse with
    | nil => exact absurd (List.reverse_eq_nil_iff.mp given) some
    | cons b r => rfl

/-- A name that ends in `.yaml` or `.yml`, with something in front. -/
def IsYamlName (name : Text.Utf8.Octets) : Prop :=
  ∃ stem, stem ≠ [] ∧
    (name = stem ++ Text.Utf8.encode ".yaml" ∨ name = stem ++ Text.Utf8.encode ".yml")

/-- A path with a name is a YAML file by that name. -/
theorem isYaml_iff_of_fileName? {p : Path} {name : Text.Utf8.Octets} (last : p.fileName? = some name) :
    p.isYaml = true ↔ IsYamlName name := by
  have spelled : Text.Utf8.encode ".yaml" = dot :: Text.Utf8.encode "yaml" ∧
      Text.Utf8.encode ".yml" = dot :: Text.Utf8.encode "yml" := by decide
  have plain : dot ∉ Text.Utf8.encode "yaml" ∧ dot ∉ Text.Utf8.encode "yml" := by decide
  rw [isYaml, last, Option.bind_some, Option.any_eq_true, IsYamlName, spelled.1, spelled.2]
  simp only [List.contains_iff_mem, yamlExtensions, List.mem_cons, List.not_mem_nil, or_false,
    extension?_eq_some]
  constructor
  · rintro ⟨_, ⟨stem, some, _, rfl⟩, rfl | rfl⟩
    · exact ⟨stem, some, .inl rfl⟩
    · exact ⟨stem, some, .inr rfl⟩
  · rintro ⟨stem, some, rfl | rfl⟩
    · exact ⟨_, ⟨stem, some, plain.1, rfl⟩, .inl rfl⟩
    · exact ⟨_, ⟨stem, some, plain.2, rfl⟩, .inr rfl⟩

/-- The name of a path is the last part that is kept, unless this is one dot or two. -/
theorem fileName?_eq_some {p : Path} {name : Text.Utf8.Octets} : p.fileName? = some name ↔
    p.kept.getLast? = some name ∧ name ≠ [dot] ∧ name ≠ [dot, dot] := by
  have last : p.fileName? = some name ↔ p.components.getLast? = some (.name name) := by
    unfold fileName?
    grind
  rw [last, components_eq, List.getLast?_append, List.getLast?_map]
  cases p.kept.getLast? with
  | none => cases p.isAbsolute <;> simp
  | some part => simp [Component.ofPart_eq_name]

theorem isYaml_iff (p : Path) : p.isYaml = true ↔ ∃ part, p.kept.getLast? = some part ∧
    part ≠ [dot] ∧ part ≠ [dot, dot] ∧ IsYamlName part := by
  constructor
  · intro yaml
    cases named : p.fileName? with
    | none => simp [isYaml, named] at yaml
    | some name =>
      obtain ⟨last, notCurrent, notParent⟩ := fileName?_eq_some.mp named
      exact ⟨name, last, notCurrent, notParent, (isYaml_iff_of_fileName? named).mp yaml⟩
  · rintro ⟨part, last, notCurrent, notParent, yaml⟩
    exact (isYaml_iff_of_fileName? (fileName?_eq_some.mpr ⟨last, notCurrent, notParent⟩)).mpr yaml

/-- A path is that of a YAML file just if the last part that is kept of it is a name that ends in
`.yaml` or `.yml`, with something in front. Slashes and single dots behind it change nothing. -/
theorem isYaml_by_last_part :
    (∀ p : Path, p.isYaml = true ↔ ∃ part, p.kept.getLast? = some part ∧ part ≠ [dot] ∧
      part ≠ [dot, dot] ∧ IsYamlName part) ∧
    ∀ (p : Path) (t : Text.Utf8.Octets), Idle t → isYaml (p ++ t) = p.isYaml := by
  refine ⟨isYaml_iff, fun p t idle => ?_⟩
  rw [Bool.eq_iff_iff, isYaml_iff, isYaml_iff, idle.kept_append]

/-- The name begins with an octet that is no UTF-8 and has a dot before that of its extension. -/
theorem yaml_name_before_idle_pieces :
    let text := Text.Utf8.encode
    let name : Text.Utf8.Octets := 0xFF :: text "..yaml"
    let p : Path := text ".//conf.d/./" ++ name
    Idle (text "/.//") ∧ kept (p ++ text "/.//") = [[dot], text "conf.d", name] ∧
      isYaml (p ++ text "/.//") = true := by
  intro text name p
  obtain ⟨last, unchanged⟩ := isYaml_by_last_part
  have behind : Idle (text "/.//") := by
    have spelled : text "/.//" = [slash, dot, slash, slash] := by decide
    rw [spelled]
    exact .current (.empty (.empty .nil))
  have yaml : p.isYaml = true := (last p).mpr
    ⟨name, by decide, by decide, by decide, 0xFF :: text ".", by decide, .inl (by decide)⟩
  exact ⟨behind, by decide, (unchanged p _ behind).trans yaml⟩

end FailureIntake.Config.Path
