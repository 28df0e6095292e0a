import Bearer.Proofs.Settings.Leaves
import Bearer.Settings.Load
/-! The layer of the variables that name settings. As long as no two name the same, and none names a part of a setting
or a table that settings are in, the layer has for each setting what its own variable says, and leaves the others. -/

namespace Bearer.Settings

open Value

/-- The path of a setting as it is written. -/
def Leaf.text {σ : Type} (ℓ : Leaf σ) : String := ".".intercalate ℓ.path

theorem ofText_text : ∀ ℓ ∈ leaves, (Path.ofText ℓ.text).all = ℓ.path.map .key := by
  decide +kernel

theorem path_ne_nil : ∀ ℓ ∈ leaves, ℓ.path ≠ [] := by
  decide +kernel

/-- The text that a variable has for the setting with a path. -/
def override? (v : Variables) (text : String) : Option String :=
  (v.entries.find? fun e => overridden? e.1 = some text).map Prod.snd

/-- No two variables name the same, and each names a setting, or nothing that a setting is in or has in it. -/
structure Proper (v : Variables) : Prop where
  once : ∀ e ∈ v.entries, ∀ e' ∈ v.entries, (overridden? e.1).isSome → overridden? e.1 = overridden? e'.1 → e.1 = e'.1
  apart : ∀ e ∈ v.entries, ∀ text ∈ overridden? e.1, ∀ ℓ ∈ leaves,
    text = ℓ.text ∨ Path.Apart (Path.ofText text).all ℓ.path

/-- Puts two underscores for each point. -/
def underscored (cs : List Char) : List Char := cs.flatMap fun c => if c = '.' then ['_', '_'] else [c]

theorem underscored_pathText {cs : List Char} (h : '.' ∉ cs) : underscored (pathText cs) = cs := by
  fun_induction pathText cs with
  | case1 rest ih =>
    have hrest := ih fun hmem => h (by simp [hmem])
    rw [underscored, List.flatMap_cons, ← underscored, hrest]
    rfl
  | case2 c rest _ ih =>
    rw [List.mem_cons, not_or] at h
    rw [underscored, List.flatMap_cons, ← underscored, ih h.2, if_neg (Ne.symm h.1)]
    rfl
  | case3 => rfl

theorem eq_dot_of_toLower {c : Char} (h : c.toLower = '.') : c = '.' := by
  unfold Char.toLower at h
  split at h
  · next hc =>
    have hge := UInt32.le_iff_toNat_le.1 hc.1
    have hle := UInt32.le_iff_toNat_le.1 hc.2
    have hsum := congrArg UInt32.toNat (congrArg Char.val h)
    rw [UInt32.toNat_add] at hsum
    change 65 ≤ c.val.toNat at hge
    change c.val.toNat ≤ 90 at hle
    change (c.val.toNat + 32) % 2 ^ 32 = 46 at hsum
    omega
  · exact h

theorem dot_notMem_lower {name : String} (h : '.' ∉ name.toList) : '.' ∉ (Text.lower name).toList := by
  rw [Text.lower, String.toList_ofList, List.mem_map]
  rintro ⟨c, hc, heq⟩
  split at heq
  · cases heq
  · exact h (eq_dot_of_toLower heq ▸ hc)

/-- Of names without points only those name the same that are equal up to the case of their letters. -/
theorem lower_eq_of_overridden {a b text : String} (ha : '.' ∉ a.toList) (hb : '.' ∉ b.toList)
    (hatext : overridden? a = some text) (hbtext : overridden? b = some text) : Text.lower a = Text.lower b := by
  obtain ⟨as, has, rfl⟩ := Option.map_eq_some_iff.1 hatext
  obtain ⟨bs, hbs, heq⟩ := Option.map_eq_some_iff.1 hbtext
  have ha' := dot_notMem_lower ha
  have hb' := dot_notMem_lower hb
  rw [Text.afterFront?_eq_some has] at ha'
  rw [Text.afterFront?_eq_some hbs] at hb'
  have hrest : bs = as := by
    have hback : underscored (pathText bs) = bs := underscored_pathText fun hmem => hb' (List.mem_append_right _ hmem)
    rw [← hback, String.ofList_injective heq, underscored_pathText fun hmem => ha' (List.mem_append_right _ hmem)]
  rw [← String.toList_inj, Text.afterFront?_eq_some has, Text.afterFront?_eq_some hbs, hrest]

theorem Proper.of_lower {v : Variables} (hpoints : ∀ e ∈ v.entries, (overridden? e.1).isSome → '.' ∉ e.1.toList)
    (hcase : ∀ e ∈ v.entries, ∀ e' ∈ v.entries, (overridden? e.1).isSome → Text.lower e.1 = Text.lower e'.1 →
      e.1 = e'.1)
    (hapart : ∀ e ∈ v.entries, ∀ text ∈ overridden? e.1, ∀ ℓ ∈ leaves,
      text = ℓ.text ∨ Path.Apart (Path.ofText text).all ℓ.path) : Proper v where
  once e he e' he' hsome hsame := by
    obtain ⟨text, htext⟩ := Option.isSome_iff_exists.1 hsome
    have htext' := hsame ▸ htext
    exact hcase e he e' he' hsome
      (lower_eq_of_overridden (hpoints e he hsome) (hpoints e' he' (htext' ▸ rfl)) htext htext')
  apart := hapart

theorem isTable_ofText (s : String) : (ofText s).isTable = false := by
  unfold ofText
  repeat' split
  all_goals rfl

/-- Puts a variable into the layer if it names something. -/
def putOverride (es : Entries) (e : String × String) : Entries :=
  match overridden? e.1 with
  | some path => Pairs.put path (ofText e.2) es
  | none => es

theorem overrides_eq (v : Variables) : overrides v = v.entries.foldl putOverride [] := rfl

theorem at?_putOverride (text : String) (es : Entries) (e : String × String) :
    Pairs.at? text (putOverride es e) = if overridden? e.1 = some text then some (ofText e.2) else Pairs.at? text es := by
  unfold putOverride
  cases h : overridden? e.1 with
  | none => simp
  | some path =>
    dsimp only
    rw [Pairs.at?_put]
    by_cases htext : text = path
    · rw [if_pos htext, if_pos (congrArg some htext.symm)]
    · rw [if_neg htext, if_neg fun h => htext (Option.some.inj h).symm]

/-- The layer has no key twice, and none that no variable names. -/
theorem keys_overrides (v : Variables) : ((overrides v).map Prod.fst).Nodup ∧
    ∀ text ∈ (overrides v).map Prod.fst, ∃ e ∈ v.entries, overridden? e.1 = some text := by
  rw [overrides_eq]
  refine List.foldlRecOn (motive := fun es : Entries => (es.map Prod.fst).Nodup ∧
    ∀ text ∈ es.map Prod.fst, ∃ e ∈ v.entries, overridden? e.1 = some text) v.entries _ ?_ ?_
  · exact ⟨List.nodup_nil, fun text htext => nomatch htext⟩
  · rintro es ⟨hnodup, hnames⟩ e he
    unfold putOverride
    cases hname : overridden? e.1 with
    | none => exact ⟨hnodup, hnames⟩
    | some path =>
      refine ⟨Pairs.nodup_put _ _ hnodup, fun text htext => ?_⟩
      rw [Pairs.keys_put] at htext
      split at htext
      · exact hnames text htext
      · rcases List.mem_append.1 htext with htext | htext
        · exact hnames text htext
        · exact ⟨e, he, by rw [hname, List.mem_singleton.1 htext]⟩

/-- Of variables that name different things the layer has the one that names a text. -/
theorem at?_overrides {v : Variables} (h : Proper v) (text : String) :
    Pairs.at? text (overrides v) = (override? v text).map ofText := by
  have hfold : ∀ (rest : List (String × String)) (es : Entries), rest ⊆ v.entries → (rest.map Prod.fst).Nodup →
      Pairs.at? text (rest.foldl putOverride es) =
        ((rest.find? fun e => overridden? e.1 = some text).map fun e => ofText e.2).or (Pairs.at? text es) := by
    intro rest
    induction rest with
    | nil => exact fun _ _ _ => rfl
    | cons e rest ih =>
      intro es hsub hnodup
      rw [List.map_cons, List.nodup_cons] at hnodup
      obtain ⟨he, hsub⟩ := List.cons_subset.1 hsub
      rw [List.foldl_cons, ih _ hsub hnodup.2, at?_putOverride, List.find?_cons]
      by_cases hname : overridden? e.1 = some text
      · have hnone : rest.find? (fun e => overridden? e.1 = some text) = none := by
          refine List.find?_eq_none.2 fun e' he' hname' => hnodup.1 ?_
          have hsame := h.once e he e' (hsub he') (by rw [hname]; rfl) (hname.trans (of_decide_eq_true hname').symm)
          exact hsame ▸ List.mem_map_of_mem he'
        rw [hnone]
        simp [hname]
      · simp [hname]
  rw [overrides_eq, hfold v.entries [] (List.Subset.refl _) v.nodup, override?, Option.map_map]
  exact Option.or_none

/-- What variables have for a setting. -/
theorem Proper.at?_setLayer {v : Variables} (h : Proper v) {ℓ : Leaf Settings} (hℓ : ℓ ∈ leaves) (es : Entries) :
    at? ℓ.path (table (Path.setLayer (overrides v) es)) =
      overlay (at? ℓ.path (table es)) ((override? v ℓ.text).map ofText) := by
  have htext := ofText_text ℓ hℓ
  obtain ⟨hnodup, hnames⟩ := keys_overrides v
  have hothers : ∀ e ∈ overrides v, e.1 = ℓ.text ∨ Path.Apart (Path.ofText e.1).all ℓ.path := by
    intro e he
    obtain ⟨x, hx, hname⟩ := hnames e.1 (List.mem_map_of_mem he)
    exact h.apart x hx e.1 hname ℓ hℓ
  rcases List.eq_nil_or_concat ℓ.path with hpath | ⟨ks, k, hpath⟩
  · exact absurd hpath (path_ne_nil ℓ hℓ)
  · rw [List.concat_eq_append] at hpath
    rw [hpath] at htext hothers ⊢
    rw [Path.at?_setLayer hnodup htext hothers, at?_overrides h]

end Bearer.Settings
