-- The configuration of the watcher. The command line is laid over the settings of a file, or
-- over the standard ones, and they are checked twice: as they stand in the file and as they
-- are in the end. So a setting that the command line replaces must be usable all the same.
import Patchbay.Proofs.Text.Utf8
import Patchbay.Watch.Basic

namespace Patchbay

namespace Config

/-- The settings can work. -/
structure Usable (c : Config) : Prop where
  host_ne_empty : c.host ≠ ""
  port_ne_zero : c.port ≠ 0
  frameLimit_ne_zero : c.frameLimit ≠ 0

/-- The file holds the settings, usable or not. Those that it leaves out are the standard ones. -/
def Written (contents : Except String (List UInt8)) (c : Config) : Prop :=
  ∃ s entries, contents = .ok (Utf8.write s) ∧ Toml.entries? s = some entries ∧
    ofEntries entries = .ok c

variable {c : Config}

theorem validate_cases (c : Config) :
    (c.Usable ∧ c.validate = .ok ()) ∨ (¬ c.Usable ∧ ∃ p, c.validate = .error p) := by
  unfold validate
  split
  · next hhost => exact .inr ⟨fun h => h.host_ne_empty hhost, _, rfl⟩
  split
  · next hport => exact .inr ⟨fun h => h.port_ne_zero hport, _, rfl⟩
  split
  · next hlimit => exact .inr ⟨fun h => h.frameLimit_ne_zero hlimit, _, rfl⟩
  · next hhost hport hlimit => exact .inl ⟨⟨hhost, hport, hlimit⟩, rfl⟩

theorem Usable.validate_eq (h : c.Usable) : c.validate = .ok () := by
  rcases c.validate_cases with ⟨-, hok⟩ | ⟨hnot, -⟩
  · exact hok
  · exact absurd h hnot

theorem usable_standard : standard.Usable := ⟨by decide, by decide, by decide⟩

/-- Settings that a file holds are loaded if they can work, and refused as they stand if not. -/
theorem load_of_written {contents : Except String (List UInt8)} (h : Written contents c)
    (path : String) : load path contents = c.validate.map fun _ => c := by
  obtain ⟨s, entries, rfl, hentries, hc⟩ := h
  have hread : Utf8.read ⟨(Utf8.write s).toArray⟩ = .ok s := Utf8.read_of_write rfl
  simp only [load, hread, ofText, hentries, hc, bind, Except.bind]
  cases c.validate <;> rfl

end Config

namespace Watch.Options

open Config (Usable Written)

/-- The settings under those of the command line: those of the file, or the standard ones. -/
def Under (o : Options) (file : String → Except String (List UInt8)) (base : Config) : Prop :=
  match o.config with
  | some path => Written (file path) base
  | none => base = .standard

/-- The settings with those of the command line over them. -/
def merged (o : Options) (base : Config) : Config :=
  ⟨o.host.getD base.host, o.port.getD base.port, base.frameLimit⟩

/-- The merged settings, refused if they cannot work. -/
def checked (o : Options) (base : Config) : Except Misconfigured Config := do
  (o.merged base).validate.mapError .merged
  return o.merged base

variable {o : Options} {file : String → Except String (List UInt8)} {base : Config}

theorem checked_of_usable (h : (o.merged base).Usable) : o.checked base = .ok (o.merged base) := by
  rw [checked, h.validate_eq]
  rfl

theorem checked_of_problem {p : ConfigProblem} (h : (o.merged base).validate = .error p) :
    o.checked base = .error (.merged p) := by
  rw [checked, h]
  rfl

theorem checked_eq_ok_iff {c : Config} :
    o.checked base = .ok c ↔ (o.merged base).Usable ∧ c = o.merged base := by
  rcases (o.merged base).validate_cases with ⟨husable, -⟩ | ⟨hnot, p, herror⟩
  · simp only [checked_of_usable husable, husable, true_and, Except.ok.injEq, eq_comm]
  · simp only [checked_of_problem herror, hnot, false_and, reduceCtorEq]

section

variable {load : String → Except ConfigProblem Config} {path : String}

theorem configuration_of_loaded (hconfig : o.config = some path) (hload : load path = .ok base) :
    o.configuration load = o.checked base := by
  unfold configuration
  simp only [hconfig, hload]
  rfl

theorem configuration_of_refused {p : ConfigProblem} (hconfig : o.config = some path)
    (hload : load path = .error p) : o.configuration load = .error (.file path p) := by
  unfold configuration
  simp only [hconfig, hload]
  rfl

theorem configuration_of_no_file (load : String → Except ConfigProblem Config)
    (hconfig : o.config = none) : o.configuration load = o.checked .standard := by
  unfold configuration
  simp only [hconfig]
  rfl

end

/-- Over usable settings nothing counts but what comes of them in the end. -/
theorem Under.configuration_of_usable (h : o.Under file base) (husable : base.Usable) :
    (o.configuration fun path => Config.load path (file path)) = o.checked base := by
  unfold Under at h
  split at h
  · next path hconfig =>
    apply configuration_of_loaded hconfig
    rw [Config.load_of_written h, husable.validate_eq]
    rfl
  · next hconfig =>
    rw [configuration_of_no_file _ hconfig, h]

/-- Only a file can hold settings that do not work, and such a file is refused. -/
theorem Under.configuration_of_not_usable (h : o.Under file base) (hnot : ¬ base.Usable) :
    ∃ path p, o.config = some path ∧ base.validate = .error p ∧
      (o.configuration fun path => Config.load path (file path)) = .error (.file path p) := by
  unfold Under at h
  split at h
  · next path hconfig =>
    rcases base.validate_cases with ⟨husable, -⟩ | ⟨-, p, herror⟩
    · exact absurd husable hnot
    · refine ⟨path, p, hconfig, herror, configuration_of_refused hconfig ?_⟩
      rw [Config.load_of_written h, herror]
      rfl
  · exact absurd (h ▸ Config.usable_standard) hnot

/-- The watcher has settings just if those under the command line can work and those with it over
them can, and it has the latter. Only settings of a file fail under it. They are refused for
themselves before anything lies over them, and those that can work count no more than what is left
of them in the end. -/
theorem settings_work_in_the_file_and_under_the_command_line (o : Options)
    (file : String → Except String (List UInt8)) (base : Config) (h : o.Under file base) :
    let made := o.configuration fun path => Config.load path (file path)
    (∀ c, made = .ok c ↔ base.Usable ∧ (o.merged base).Usable ∧ c = o.merged base) ∧
    (o.config = none → base.Usable) ∧
    (¬ base.Usable → ∃ path p, o.config = some path ∧ base.validate = .error p ∧
      made = .error (.file path p)) ∧
    (base.Usable → ¬ (o.merged base).Usable → ∃ p, (o.merged base).validate = .error p ∧
      made = .error (.merged p)) ∧
    ∀ file' base', o.Under file' base' → base.Usable → base'.Usable →
      o.merged base' = o.merged base →
        (o.configuration fun path => Config.load path (file' path)) = made := by
  intro made
  refine ⟨?_, ?_, h.configuration_of_not_usable, ?_, ?_⟩
  · intro c
    by_cases husable : base.Usable
    · have hmade : made = o.checked base := h.configuration_of_usable husable
      simp only [hmade, checked_eq_ok_iff, husable, true_and]
    · obtain ⟨path, p, -, -, hmade⟩ := h.configuration_of_not_usable husable
      simp only [made, hmade, husable, reduceCtorEq, false_and]
  · intro hconfig
    rw [Under, hconfig] at h
    exact h ▸ Config.usable_standard
  · intro husable hnot
    rcases (o.merged base).validate_cases with ⟨hmerged, -⟩ | ⟨-, p, herror⟩
    · exact absurd hmerged hnot
    · have hmade : made = o.checked base := h.configuration_of_usable husable
      exact ⟨p, herror, hmade.trans (checked_of_problem herror)⟩
  · intro file' base' h' husable husable' hmerged
    have hmade : made = o.checked base := h.configuration_of_usable husable
    have hsame : o.checked base' = o.checked base := by simp only [checked, hmerged]
    exact (h'.configuration_of_usable husable').trans (hsame.trans hmade.symm)

/-- A port over that of a file, whichever it is unless it is nought, and an empty host over its
host. -/
theorem a_port_over_that_of_a_file :
    let o : Options := { Options.empty with config := some "c", port := some 5000 }
    let hostless := { o with host := some "" }
    let file (port : String) := fun _ => .ok (Utf8.write ("port = " ++ port))
    let base (port : UInt16) : Config := { Config.standard with port := port }
    let made (o : Options) (port : String) :=
      o.configuration fun path => Config.load path (file port path)
    o.Under (file "4000") (base 4000) ∧ o.Under (file "1") (base 1) ∧ o.Under (file "0") (base 0) ∧
    made o "4000" = .ok (base 5000) ∧ made o "1" = made o "4000" ∧
    (∃ path p, made o "0" = .error (.file path p)) ∧
    ∃ p, made hostless "4000" = .error (.merged p) := by
  intro o hostless file base made
  have h4000 : o.Under (file "4000") (base 4000) :=
    ⟨_, [("port", .integer 4000)], rfl, by decide, rfl⟩
  have h1 : o.Under (file "1") (base 1) := ⟨_, [("port", .integer 1)], rfl, by decide, rfl⟩
  have h0 : o.Under (file "0") (base 0) := ⟨_, [("port", .integer 0)], rfl, by decide, rfl⟩
  have husable : (base 4000).Usable := ⟨by decide, by decide, by decide⟩
  have hmerged : (o.merged (base 4000)).Usable := ⟨by decide, by decide, by decide⟩
  have hnot : ¬ (hostless.merged (base 4000)).Usable := fun h => h.host_ne_empty rfl
  obtain ⟨hmade, -, -, -, hsame⟩ :=
    settings_work_in_the_file_and_under_the_command_line o _ _ h4000
  obtain ⟨-, -, hfile, -⟩ := settings_work_in_the_file_and_under_the_command_line o _ _ h0
  obtain ⟨-, -, -, hrefused, -⟩ :=
    settings_work_in_the_file_and_under_the_command_line hostless _ _ h4000
  obtain ⟨path, p, -, -, hp⟩ := hfile fun h => h.port_ne_zero rfl
  obtain ⟨q, -, hq⟩ := hrefused husable hnot
  exact ⟨h4000, h1, h0, (hmade _).2 ⟨husable, hmerged, rfl⟩,
    hsame _ _ h1 husable ⟨by decide, by decide, by decide⟩ rfl, ⟨path, p, hp⟩, q, hq⟩

/-- A port of nought in the file stops the watcher though the command line has another. -/
theorem a_port_of_nought_in_the_file_counts_under_another :
    let o : Options := { Options.empty with config := some "c", port := some 5000 }
    let file := fun _ => .ok (Utf8.write "port = 0\n")
    let base : Config := { Config.standard with port := 0 }
    let made := o.configuration fun path => Config.load path (file path)
    o.Under file base ∧ (o.merged base).Usable ∧ made = .error (.file "c" .zeroPort) ∧
    ¬ ((∃ c, made = .ok c) ↔ (o.merged base).Usable) := by
  intro o file base made
  have hunder : o.Under file base := ⟨_, [("port", .integer 0)], rfl, by decide, rfl⟩
  have hmerged : (o.merged base).Usable := ⟨by decide, by decide, by decide⟩
  have hrefused : made = .error (.file "c" .zeroPort) := by
    apply configuration_of_refused rfl
    rw [Config.load_of_written hunder]
    rfl
  refine ⟨hunder, hmerged, hrefused, fun hiff => ?_⟩
  obtain ⟨c, hc⟩ := hiff.2 hmerged
  rw [hrefused] at hc
  cases hc

end Watch.Options

end Patchbay
