import FieldLogger.Config

/-! Which configurations have no problems. -/

namespace FieldLogger.Config

/-- What a configuration without problems is: its record has a file, its stores have a directory each, its server, if
    the network is enabled, has an address of the right scheme, posts are given some time, and ticks are short. -/
structure Valid (c : Config) : Prop where
  metadataFile : Text.trim c.metadataFile.toList ≠ []
  directories : (Route.parse c.internalDir).sameAs (Route.parse c.externalDir) = false
  scheme : c.enabled = true → Config.scheme <+: c.serverUrl.toList
  timeout : c.timeoutMs ≠ 0
  tick : c.tickMs ≠ 0
  tick_le : c.tickMs ≤ maxTickMs

theorem problems_eq_nil_iff {c : Config} : c.problems = [] ↔ c.Valid := by
  unfold problems
  simp only [List.append_eq_nil_iff, ite_eq_right_iff, List.cons_ne_nil, imp_false, List.isPrefixOf_iff_prefix]
  constructor
  · rintro ⟨⟨⟨⟨hfile, hdirectories⟩, hscheme⟩, htimeout⟩, htick⟩
    rw [not_or] at htick
    exact ⟨fun h => hfile (List.isEmpty_iff.mpr h), Bool.eq_false_iff.mpr hdirectories,
      fun h => Decidable.of_not_not fun hnot => hscheme ⟨h, hnot⟩, htimeout, htick.1, UInt64.not_lt.mp htick.2⟩
  · rintro ⟨hfile, hdirectories, hscheme, htimeout, htick, hle⟩
    exact ⟨⟨⟨⟨fun h => hfile (List.isEmpty_iff.mp h), Bool.eq_false_iff.mp hdirectories⟩, fun h => h.2 (hscheme h.1)⟩,
      htimeout⟩, not_or.mpr ⟨htick, UInt64.not_lt.mpr hle⟩⟩

theorem badUrl_mem_problems_iff {c : Config} {url : String} :
    .badUrl url ∈ c.problems ↔ (c.enabled = true ∧ ¬Config.scheme <+: c.serverUrl.toList) ∧ url = c.serverUrl := by
  unfold problems
  simp only [List.mem_append, List.mem_ite_nil_right, List.mem_singleton, reduceCtorEq, and_false, or_false, false_or,
    Problem.badUrl.injEq, List.isPrefixOf_iff_prefix]

end FieldLogger.Config
