import Bearer.Proofs.Settings.Layers
/-! What is given for a setting. If one entry of a layer leads to a value at the path of the setting, and all others part
from that path, then the value is found there, whatever lies below the layer; a layer of which every entry parts from
the path leaves what is there. So the file is heard where no variable speaks, and a variable wherever it does. -/

namespace Bearer.Settings

open Value

/-- Every entry of a layer parts from some keys. -/
def Spares (layer : Entries) (ks : List String) : Prop := ∀ e ∈ layer, Path.Apart (Path.ofText e.1).all ks

/-- One entry of a layer has a value behind some keys, of which the first are its path; all others part from them. -/
def Gives (layer : Entries) (ks : List String) (x : Value) : Prop :=
  ∃ e ∈ layer, (∃ p q, ks = p ++ q ∧ (Path.ofText e.1).all = p.map .key ∧ at? q e.2 = some x) ∧
    ∀ e' ∈ layer, e'.1 = e.1 ∨ Path.Apart (Path.ofText e'.1).all ks

section

variable {layer es : Entries} {ks : List String} {x : Value}

theorem at?_setLayer_of_spares (h : Spares layer ks) : at? ks (table (Path.setLayer layer es)) = at? ks (table es) := by
  induction layer generalizing es with
  | nil => rfl
  | cons e layer ih =>
    obtain ⟨he, hlayer⟩ := List.forall_mem_cons.1 h
    show at? ks (table (Path.setLayer layer ((Path.ofText e.1).set e.2 es))) = _
    rw [ih hlayer, Path.at?_set_of_apart he]

/-- Whatever leads to something goes through tables. -/
theorem leads_of_at? {v : Value} (hv : v.Distinct) (h : at? ks v = some x) : Leads ks v := by
  apply leads_of_isTable hv
  rintro p q rfl hq w hw
  rw [at?_append, hw, Option.bind_some] at h
  cases q with
  | nil => exact absurd rfl hq
  | cons k q =>
    cases htable : w.isTable with
    | true => rfl
    | false =>
      rw [at?_cons_of_not_isTable htable] at h
      cases h

/-- Where no key comes twice, what comes after an entry has other keys. -/
theorem ne_of_mem_after {υ : Type} {before after : List (String × υ)} {e : String × υ}
    (h : ((before ++ e :: after).map Prod.fst).Nodup) {e' : String × υ} (he' : e' ∈ after) : e'.1 ≠ e.1 := by
  rw [List.map_append, List.map_cons] at h
  have hfresh := (List.nodup_cons.1 (List.nodup_append.1 h).2.1).1
  exact fun hsame => hfresh (hsame ▸ List.mem_map_of_mem he')

/-- What an entry leads to is behind its path when it was set, unless it is a table. -/
theorem at?_set_of_leads {p : Path} {keys q : List String} {v : Value} (hp : p.all = keys.map .key) (hv : v.Distinct)
    (h : at? q v = some x) (hx : x.isTable = false) : at? (keys ++ q) (table (p.set v es)) = some x := by
  rcases List.eq_nil_or_concat keys with rfl | ⟨init, k, rfl⟩
  · cases hp
  · rw [List.concat_eq_append] at hp ⊢
    rw [at?_append, Path.at?_set_self hp, Option.bind_some, at?_merge (leads_of_at? hv h), h, overlay,
      merge_of_not_isTable hx]

/-- What a layer gives is found, whatever there was. -/
theorem Gives.at?_setLayer (h : Gives layer ks x) (hdistinct : (table layer).Distinct) (hx : x.isTable = false) :
    at? ks (table (Path.setLayer layer es)) = some x := by
  obtain ⟨e, he, ⟨p, q, rfl, hpath, hfound⟩, hothers⟩ := h
  have hnodup := hdistinct [] layer rfl
  have hvalue := hdistinct.of_mem he
  -- what comes before the entry does not matter, and what comes after it leaves the path
  obtain ⟨before, after, rfl⟩ := List.append_of_mem he
  have hafter : Spares after (p ++ q) :=
    fun e' he' => (hothers e' (by simp [he'])).resolve_left (ne_of_mem_after hnodup he')
  rw [Path.setLayer, List.foldl_append, List.foldl_cons]
  show at? (p ++ q) (table (Path.setLayer after ((Path.ofText e.1).set e.2 _))) = some x
  rw [at?_setLayer_of_spares hafter]
  exact at?_set_of_leads hpath hvalue hfound hx

end

/-- What is found behind the name of a section is given, if nothing else leads there. -/
theorem gives_of_at? {layer : Entries} {n : String} {ks : List String} {x : Value} (hn : Path.ofText n = ⟨n, []⟩)
    (hothers : ∀ e ∈ layer, e.1 = n ∨ Path.Apart (Path.ofText e.1).all (n :: ks))
    (hx : at? (n :: ks) (table layer) = some x) : Gives layer (n :: ks) x := by
  obtain ⟨w, hw, hrest⟩ := Option.bind_eq_some_iff.1 hx
  refine ⟨(n, w), mem_of_at? hw, ⟨[n], ks, rfl, ?_, hrest⟩, hothers⟩
  rw [hn]
  rfl

/-! Variables. -/

/-- No variable names something that a path leads to or through. -/
def Unnamed (v : Variables) (ks : List String) : Prop :=
  ∀ e ∈ v.entries, ∀ name ∈ overridden? e.1, Path.Apart (Path.ofText name).all ks

/-- One variable names the setting at a path and has a text for it, and no other names what the path leads to or
through. -/
def Named (v : Variables) (ks : List String) (text : String) : Prop :=
  ∃ e ∈ v.entries, e.2 = text ∧ (∃ name ∈ overridden? e.1, (Path.ofText name).all = ks.map .key) ∧
    ∀ e' ∈ v.entries, e'.1 ≠ e.1 → ∀ name ∈ overridden? e'.1, Path.Apart (Path.ofText name).all ks

theorem Unnamed.spares {v : Variables} {ks : List String} (h : Unnamed v ks) : Spares (overrides v) ks := by
  intro e he
  obtain ⟨x, hx, hname⟩ := (keys_overrides v).2 e.1 (List.mem_map_of_mem he)
  exact h x hx e.1 hname

/-- Other variables leave what one has put into the layer. -/
theorem at?_foldl_putOverride {name : String} {rest : List (String × String)}
    (h : ∀ e ∈ rest, overridden? e.1 ≠ some name) (es : Entries) :
    Pairs.at? name (rest.foldl putOverride es) = Pairs.at? name es := by
  induction rest generalizing es with
  | nil => rfl
  | cons e rest ih =>
    obtain ⟨he, hrest⟩ := List.forall_mem_cons.1 h
    rw [List.foldl_cons, ih hrest, at?_putOverride, if_neg he]

theorem Named.gives {v : Variables} {ks : List String} {text : String} (h : Named v ks text) :
    Gives (overrides v) ks (ofText text) := by
  obtain ⟨e, he, rfl, ⟨name, hname, hpath⟩, hothers⟩ := h
  obtain ⟨-, hnames⟩ := keys_overrides v
  have hself : ¬Path.Apart (Path.ofText name).all ks := by
    rw [hpath, Path.apart_map_key]
    exact fun h => h.1 (List.prefix_refl ks)
  have hput : Pairs.at? name (overrides v) = some (ofText e.2) := by
    have hnodup := v.nodup
    obtain ⟨before, after, hentries⟩ := List.append_of_mem he
    rw [overrides_eq]
    rw [hentries] at hnodup hothers ⊢
    rw [List.foldl_append, List.foldl_cons, at?_foldl_putOverride, at?_putOverride]
    · exact if_pos hname
    · exact fun e' he' hsame => hself (hothers e' (by simp [he']) (ne_of_mem_after hnodup he') name hsame)
  refine ⟨(name, ofText e.2), mem_of_at? hput, ⟨ks, [], (List.append_nil ks).symm, hpath, rfl⟩, fun x hx => ?_⟩
  obtain ⟨e', he', hname'⟩ := hnames x.1 (List.mem_map_of_mem hx)
  by_cases hsame : e'.1 = e.1
  · left
    rw [hsame, hname] at hname'
    exact (Option.some.inj hname').symm
  · exact .inr (hothers e' he' hsame x.1 hname')

theorem distinct_overrides (v : Variables) : (table (overrides v)).Distinct :=
  distinct_table (keys_overrides v).1 fun _ he => distinct_of_not_isTable (isTable_of_mem_overrides he)

/-! Loading. -/

section

variable {v : Variables} {files : Files} {file : Entries} {s : Settings} {ℓ : Leaf Settings}

theorem read_of_found {x : Value} (h : load v files = .ok s)
    (hfile : fileLayer files (ofVariables (v.completed files)).environment = .ok file) (hℓ : ℓ ∈ leaves)
    (hfound : ∀ es, at? ℓ.path (table (Path.setLayer (overrides (v.completed files)) (Path.setLayer file es))) = some x) :
    ℓ.kind.read x = some (ℓ.get s) := by
  obtain ⟨d, -, hread⟩ := read_of_layered h hfile
  exact reads hread ℓ hℓ x (hfound _)

/-- A setting that the file gives and no variable names is what the file has. -/
theorem read_of_filed {x : Value} (h : load v files = .ok s)
    (hfile : fileLayer files (ofVariables (v.completed files)).environment = .ok file) (hℓ : ℓ ∈ leaves)
    (hgives : Gives file ℓ.path x) (hx : x.isTable = false) (hunnamed : Unnamed (v.completed files) ℓ.path) :
    ℓ.kind.read x = some (ℓ.get s) := by
  apply read_of_found h hfile hℓ
  intro es
  rw [at?_setLayer_of_spares hunnamed.spares]
  exact hgives.at?_setLayer (distinct_fileLayer hfile) hx

/-- A setting that a variable names is what the text of the variable stands for. -/
theorem read_of_named {text : String} (h : load v files = .ok s)
    (hfile : fileLayer files (ofVariables (v.completed files)).environment = .ok file) (hℓ : ℓ ∈ leaves)
    (hnamed : Named (v.completed files) ℓ.path text) : ℓ.kind.read (ofText text) = some (ℓ.get s) := by
  apply read_of_found h hfile hℓ
  intro es
  exact hnamed.gives.at?_setLayer (distinct_overrides _) (isTable_ofText text)

end

end Bearer.Settings
