import PluginHost.Discovery.Directory
import PluginHost.Proofs.Yaml.Idle

/-!
The test for idle lines stands before the reading of a YAML text. It loses no value where the lines
that it takes for idle are void in YAML. It does lose values where YAML sees more in them: another
line after a lone carriage return, or a plain scalar that starts with white space of another kind or
with three hyphens that no document can start with.
-/
namespace PluginHost.Format

open Yaml (isVoid lines endsLinesWithLineFeeds)

variable {content : String}

/-- Every value but null that YAML reads in the text is what the parser gives. -/
def KeepsValue (content : String) : Prop :=
  ∀ path v, v ≠ .null → Yaml.read content.toList = some v →
    (DocumentParser.ofFormat .yaml).parse path content = .ok (some v)

theorem parse_of_isIdle (h : isIdle content = true) (path : Path) :
    (DocumentParser.ofFormat .yaml).parse path content = .ok none := by
  simp [DocumentParser.ofFormat, read, h, pure, Except.pure, Except.mapError]

theorem parse_of_not_isIdle (h : isIdle content = false) {v : Value}
    (hread : Yaml.read content.toList = some v) (hv : v ≠ .null) (path : Path) :
    (DocumentParser.ofFormat .yaml).parse path content = .ok (some v) := by
  unfold DocumentParser.ofFormat read
  simp only [h, hread]
  cases v with
  | null => exact absurd rfl hv
  | _ => rfl

theorem keepsValue_of_isVoid (h : isIdle content = true → isVoid content.toList = true) :
    KeepsValue content := by
  intro path v hv hread
  cases hidle : isIdle content with
  | false => exact parse_of_not_isIdle hidle hread hv path
  | true =>
    have hlines : ∀ l ∈ lines content.toList, isIdleLine l = true := fun l hl =>
      Yaml.isIdleLine_of_isVoidLine (List.all_eq_true.1 (h hidle) l hl)
    exact absurd ((Yaml.eq_null_iff_isVoid hlines hread).2 (h hidle)) hv

/-- Where a text is not idle, or is void in YAML, no value is lost. If line feeds end its lines, with
or without carriage returns before them, that is also necessary, as far as YAML accepts the text at
all. -/
theorem keepsValue_where_idle_is_void (content : String) :
    ((isIdle content = true → isVoid content.toList = true) → KeepsValue content) ∧
    (endsLinesWithLineFeeds content.toList = true →
      (KeepsValue content ↔ (isIdle content = true → isVoid content.toList = true) ∨
        Yaml.read content.toList = none)) := by
  refine ⟨keepsValue_of_isVoid, fun hends => ⟨fun hkeeps => ?_, ?_⟩⟩
  · cases hread : Yaml.read content.toList with
    | none => exact .inr rfl
    | some v =>
      refine .inl fun hidle => ?_
      have hnull := Yaml.eq_null_iff_isVoid (Yaml.isIdleLine_of_mem_lines hidle hends) hread
      by_contra hvoid
      have hkept := hkeeps ⟨""⟩ v (fun hv => hvoid (hnull.1 hv)) hread
      rw [parse_of_isIdle hidle] at hkept
      cases hkept
  · rintro (hvoid | hnone)
    · exact keepsValue_of_isVoid hvoid
    · intro path v _ hread
      cases hnone.symm.trans hread

/-- Carriage returns before line feeds do no harm, but three hyphens further in on the line are a text
in YAML. -/
theorem keepsValue_with_carriageReturns :
    KeepsValue "# note\r\n---\r\n" ∧ ¬KeepsValue " ---\n" := by
  refine ⟨(keepsValue_where_idle_is_void "# note\r\n---\r\n").1 fun _ => by decide +kernel, ?_⟩
  have hends : endsLinesWithLineFeeds " ---\n".toList = true := by decide +kernel
  have hidle : isIdle " ---\n" = true := by decide +kernel
  have hvoid : isVoid " ---\n".toList = false := by decide +kernel
  have hread : (Yaml.read " ---\n".toList).isSome = true := by decide +kernel
  rw [(keepsValue_where_idle_is_void " ---\n").2 hends]
  rintro (h | h)
  · cases hvoid.symm.trans (h hidle)
  · rw [h] at hread
    cases hread

/-- A comment ends with its carriage return in YAML, and what comes after it is a definition. The
parser gives no document. -/
theorem definition_lost_after_carriageReturn :
    let content := "# note\rid: block\n"
    (∃ v definition, v ≠ .null ∧ Yaml.read content.toList = some v ∧
      Definition.ofDocument v "id" "core" ⟨"block.yml"⟩ = .ok definition ∧ definition.id = "block" ∧
      (DocumentParser.ofFormat .yaml).parse ⟨"block.yml"⟩ content = .ok none) ∧
    ¬KeepsValue content := by
  intro content
  have hparse : (DocumentParser.ofFormat .yaml).parse ⟨"block.yml"⟩ content = .ok none :=
    parse_of_isIdle (by decide +kernel) _
  have hid : ((Yaml.read content.toList).bind fun v =>
      (Definition.ofDocument v "id" "core" ⟨"block.yml"⟩).toOption.map Definition.id) =
        some "block" := by
    decide +kernel
  obtain ⟨v, hread, hid⟩ := Option.bind_eq_some_iff.1 hid
  obtain ⟨definition, hdefinition, hid⟩ := Option.map_eq_some_iff.1 hid
  have hv : v ≠ .null := by
    rintro rfl
    cases hdefinition
  refine ⟨⟨v, definition, hv, hread, ?_, hid, hparse⟩, fun hkeeps => ?_⟩
  · cases hdocument : Definition.ofDocument v "id" "core" ⟨"block.yml"⟩ with
    | ok d =>
      rw [hdocument] at hdefinition
      exact congrArg Except.ok (Option.some.inj hdefinition)
    | error e =>
      rw [hdocument] at hdefinition
      cases hdefinition
  · cases hparse.symm.trans (hkeeps ⟨"block.yml"⟩ v hv hread)

end PluginHost.Format
