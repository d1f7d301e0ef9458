import StubLinker.Build.Basic
import StubLinker.Proofs.Json.Object

namespace StubLinker

namespace Json

variable {c : Char} {s t : String}

theorem newline_ne_hexDigit {n : Nat} (h : n < 16) : '\n' ≠ hexDigit n := by
  revert n
  decide

theorem newline_not_mem_escape (c : Char) : '\n' ∉ escape c := by
  unfold escape
  split
  · decide
  split
  · decide
  split
  · decide
  split
  · decide
  split
  · decide
  split
  · decide
  split
  · decide
  split
  · rename_i h
    have hhigh := newline_ne_hexDigit (n := c.toNat / 16) (by omega)
    have hlow := newline_ne_hexDigit (n := c.toNat % 16) (by omega)
    simp [hhigh, hlow]
  · rename_i hfeed _ _ _
    rw [List.mem_singleton]
    rintro rfl
    exact hfeed rfl

theorem newline_not_mem_quote (s : String) : '\n' ∉ (quote s).toList := by
  rw [toList_quote]
  intro h
  rcases List.mem_cons.1 h with h | h
  · exact absurd h (by decide)
  rcases List.mem_append.1 h with h | h
  · obtain ⟨c, -, hc⟩ := List.mem_flatMap.1 h
    exact newline_not_mem_escape c hc
  · exact absurd h (by decide)

end Json

namespace Pattern

theorem ofText_empty : ofText "" = .ok empty := by
  rfl

theorem occursIn_empty (s : String) : empty.occursIn s = true := by
  simp [occursIn, ends]

end Pattern

namespace Settings

theorem eq_iff {s t : Settings} : s = t ↔
    s.annotationPackage = t.annotationPackage ∧ s.linkFailureClass = t.linkFailureClass := by
  cases s
  cases t
  simp

theorem toList_toJson (s : Settings) : s.toJson.toList =
    '\x7b' :: ((Json.quote "annotation_package").toList ++ ':' ::
      ((Json.quote s.annotationPackage).toList ++ ',' ::
        ((Json.quote "link_failure_class").toList ++ ':' ::
          ((Json.quote s.linkFailureClass).toList ++ ['\x7d'])))) := by
  simp [toJson, Json.compactObject]

theorem toJson_injective {s t : Settings} (h : s.toJson = t.toJson) : s = t := by
  have hlist := congrArg String.toList h
  rw [toList_toJson, toList_toJson] at hlist
  obtain ⟨-, hlist⟩ := Json.quote_append_injective (List.cons.inj hlist).2
  obtain ⟨hpackage, hlist⟩ := Json.quote_append_injective (List.cons.inj hlist).2
  obtain ⟨-, hlist⟩ := Json.quote_append_injective (List.cons.inj hlist).2
  obtain ⟨hfailure, -⟩ := Json.quote_append_injective (List.cons.inj hlist).2
  cases s
  cases t
  cases hpackage
  cases hfailure
  rfl

theorem newline_not_mem_toJson (s : Settings) : '\n' ∉ s.toJson.toList := by
  rw [toList_toJson]
  simp [Json.newline_not_mem_quote]

end Settings

namespace Build

variable {b b' : Build}

theorem append_newline_injective {as bs cs ds : List Char} (ha : '\n' ∉ as) (hb : '\n' ∉ bs)
    (h : as ++ '\n' :: cs = bs ++ '\n' :: ds) : as = bs ∧ cs = ds := by
  induction as generalizing bs with
  | nil =>
    cases bs with
    | nil => exact ⟨rfl, (List.cons.inj h).2⟩
    | cons c bs =>
      obtain ⟨rfl, -⟩ := List.cons.inj h
      exact absurd List.mem_cons_self hb
  | cons a as ih =>
    cases bs with
    | nil =>
      obtain ⟨rfl, -⟩ := List.cons.inj h
      exact absurd List.mem_cons_self ha
    | cons c bs =>
      obtain ⟨rfl, htail⟩ := List.cons.inj h
      obtain ⟨rfl, hrest⟩ := ih (fun h => ha (List.mem_cons_of_mem _ h))
        (fun h => hb (List.mem_cons_of_mem _ h)) htail
      exact ⟨rfl, hrest⟩

theorem settingsDigest_ne_empty (b : Build) : b.settingsDigest ≠ "" := by
  intro h
  have hlist := congrArg String.toList h
  unfold settingsDigest sha256 Bytes.hex at hlist
  rw [String.toList_ofList] at hlist
  simp [Sha256.Words.bytes, Bytes.ofUInt32] at hlist

/-- Filters of the same text select the same paths; a filter without text selects all. -/
theorem selects_of_text {f f' : Option PathFilter}
    (h : (f.map (·.text)).getD "" = (f'.map (·.text)).getD "") (path : String) :
    f.all (·.selects path) = f'.all (·.selects path) := by
  have hempty (g : PathFilter) (hg : g.text = "") : g.selects path = true := by
    have hpattern := g.pattern_eq
    rw [hg, Pattern.ofText_empty] at hpattern
    rw [PathFilter.selects, ← Except.ok.inj hpattern]
    exact Pattern.occursIn_empty path
  cases f with
  | none =>
    cases f' with
    | none => rfl
    | some g' =>
      simp only [Option.map_none, Option.getD_none, Option.map_some, Option.getD_some] at h
      simp [hempty g' h.symm]
  | some g =>
    cases f' with
    | none =>
      simp only [Option.map_none, Option.getD_none, Option.map_some, Option.getD_some] at h
      simp [hempty g h]
    | some g' =>
      simp only [Option.map_some, Option.getD_some] at h
      have hg := g.pattern_eq
      rw [h, g'.pattern_eq] at hg
      simp only [Option.all_some, PathFilter.selects]
      rw [Except.ok.inj hg]

/-- The text of the settings is that of both parts: neither can pass for some of the other. -/
theorem settingsText_eq_iff : b.settingsText = b'.settingsText ↔ b.settings = b'.settings ∧
    (b.filter.map (·.text)).getD "" = (b'.filter.map (·.text)).getD "" := by
  constructor
  · intro h
    have hlist := congrArg String.toList h
    simp only [settingsText, String.toList_append] at hlist
    have hnewline : "\n".toList = ['\n'] := by decide
    rw [hnewline, List.append_assoc, List.append_assoc] at hlist
    obtain ⟨hjson, hfilter⟩ := append_newline_injective (Settings.newline_not_mem_toJson _)
      (Settings.newline_not_mem_toJson _) hlist
    exact ⟨Settings.toJson_injective (String.toList_injective hjson),
      String.toList_injective hfilter⟩
  · rintro ⟨hsettings, hfilter⟩
    rw [settingsText, settingsText, hsettings, hfilter]

/-- Both builds link the same inputs, with the same settings. -/
structure LinksAlike (b b' : Build) : Prop where
  settings : b.settings = b'.settings
  links : ∀ path, b.links path = b'.links path

theorem LinksAlike.outcome (h : b.LinksAlike b') (path : String) (contents : Bytes) :
    b.outcome path contents = b'.outcome path contents := by
  rw [Build.outcome, Build.outcome, h.settings, h.links]

theorem linksAlike_of_settingsText (h : b.settingsText = b'.settingsText) : b.LinksAlike b' := by
  obtain ⟨hsettings, hfilter⟩ := settingsText_eq_iff.1 h
  refine ⟨hsettings, fun path => ?_⟩
  rw [Build.links, Build.links, selects_of_text hfilter]

theorem outcome_eq_of_settingsText (h : b.settingsText = b'.settingsText) (path : String)
    (contents : Bytes) : b.outcome path contents = b'.outcome path contents :=
  (linksAlike_of_settingsText h).outcome path contents

end Build

end StubLinker
