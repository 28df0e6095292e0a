import Bearer.Proofs.Settings.Overrides
import Bearer.Proofs.Toml.Distinct
/-! Which layer each setting comes from. A variable that names it by its path comes first, then the settings file of the
environment, and then what the environment variables give; whatever else is in the layers changes nothing. -/

namespace Bearer.Settings

open Value

/-- The paths of the tables that settings are in. -/
def sections : List (List String) := leaves.flatMap fun ℓ => (List.range ℓ.path.length).map ℓ.path.take

/-- The names of the sections and settings that are in no other section. -/
def rootNames : List String := leaves.filterMap fun ℓ => ℓ.path.head?

/-- A file gives its sections as tables, each under its own name, and nothing else in the file is named by a path that
begins with the name of a section or a setting. -/
structure Plain (file : Entries) : Prop where
  tables : ∀ p ∈ sections, ((table file).at? p).all isTable = true
  names : ∀ e ∈ file, ∀ n ∈ rootNames, e.1 = n ∨ (Path.ofText e.1).head ≠ n

instance (file : Entries) : Decidable (Plain file) :=
  decidable_of_iff ((∀ p ∈ sections, ((table file).at? p).all isTable = true) ∧
    ∀ e ∈ file, ∀ n ∈ rootNames, e.1 = n ∨ (Path.ofText e.1).head ≠ n) ⟨fun h => ⟨h.1, h.2⟩, fun h => ⟨h.1, h.2⟩⟩

theorem ofText_rootName : ∀ n ∈ rootNames, Path.ofText n = ⟨n, []⟩ := by
  decide +kernel

theorem ofText_section : ∀ k ∈ ["environment", "server", "database", "auth", "cache", "storage", "logging"],
    Path.ofText k = ⟨k, []⟩ := by
  decide +kernel

theorem exists_rootName {ℓ : Leaf Settings} (hℓ : ℓ ∈ leaves) : ∃ n ∈ rootNames, ∃ ks, ℓ.path = n :: ks := by
  cases hpath : ℓ.path with
  | nil => exact absurd hpath (path_ne_nil ℓ hℓ)
  | cons n ks => exact ⟨n, List.mem_filterMap.2 ⟨ℓ, hℓ, by rw [hpath]; rfl⟩, ks, rfl⟩

/-! The settings file, and the variables. -/

theorem distinct_fileLayer {files : Files} {e : Environment} {file : Entries} (h : fileLayer files e = .ok file) :
    (table file).Distinct := by
  unfold fileLayer at h
  split at h
  · cases h
    exact distinct_table_nil
  · split at h
    · next t ht =>
      cases h
      have hdistinct := Toml.distinct_parse ht
      cases t with
      | table es => exact hdistinct
      | _ => exact distinct_table_nil
    · cases h

/-- Variables give nothing but single values. -/
theorem isTable_of_mem_overrides {v : Variables} {e : String × Value} (he : e ∈ overrides v) : e.2.isTable = false := by
  have hfold : ∀ text w, Pairs.at? text (overrides v) = some w → w.isTable = false := by
    rw [overrides_eq]
    refine List.foldlRecOn (motive := fun es : Entries => ∀ text w, Pairs.at? text es = some w → w.isTable = false)
      v.entries _ (fun _ _ h => nomatch h) fun es ih x _ text w hw => ?_
    rw [at?_putOverride] at hw
    split at hw
    · cases hw
      exact isTable_ofText x.2
    · exact ih text w hw
  exact hfold e.1 e.2 (at?_of_mem (keys_overrides v).1 he)

theorem leads_of_isTable {ks : List String} {v : Value} (hv : v.Distinct)
    (h : ∀ p q, ks = p ++ q → q ≠ [] → ∀ w, at? p v = some w → w.isTable = true) : Leads ks v := by
  induction ks generalizing v with
  | nil => trivial
  | cons k ks ih =>
    have htable := h [] (k :: ks) rfl (List.cons_ne_nil k ks) v rfl
    cases v with
    | table es =>
      refine ⟨es, rfl, hv [] es rfl, fun w hw => ih (fun p inner hinner => ?_) fun p q hks hq x hx => ?_⟩
      · exact hv (k :: p) inner (by rw [at?]; exact (congrArg (·.bind (at? p)) hw).trans hinner)
      · exact h (k :: p) q (by rw [hks]; rfl) hq x (by rw [at?]; exact (congrArg (·.bind (at? p)) hw).trans hx)
    | _ => cases htable

theorem Plain.leads {file : Entries} (h : Plain file) (hdistinct : (table file).Distinct) {ℓ : Leaf Settings}
    (hℓ : ℓ ∈ leaves) : Leads ℓ.path (table file) := by
  refine leads_of_isTable hdistinct fun p q hpath hq w hw => ?_
  have hp : p ∈ (List.range ℓ.path.length).map ℓ.path.take := by
    refine List.mem_map.2 ⟨p.length, List.mem_range.2 ?_, by rw [hpath, List.take_left]⟩
    have hlength := List.length_pos_iff.2 hq
    rw [hpath, List.length_append]
    omega
  have hall := h.tables p (List.mem_flatMap.2 ⟨ℓ, hℓ, hp⟩)
  rwa [hw] at hall

/-- A layer that has a section or a setting under its own name only. -/
theorem at?_setLayer_of_names {layer : Entries} {n : String} {ks : List String} (hn : Path.ofText n = ⟨n, []⟩)
    (hnames : ∀ e ∈ layer, e.1 = n ∨ (Path.ofText e.1).head ≠ n) (hleads : Leads (n :: ks) (table layer))
    (es : Entries) : at? (n :: ks) (table (Path.setLayer layer es)) =
      overlay (at? (n :: ks) (table es)) (at? (n :: ks) (table layer)) := by
  obtain ⟨_, hlayer, hnodup, hnext⟩ := hleads
  cases hlayer
  have hparts : ∀ e ∈ layer, e.1 = n ∨ Path.Apart (Path.ofText e.1).all ([] ++ [n]) :=
    fun e he => (hnames e he).imp_right fun hne => Or.inl hne
  have hroot := Path.at?_setLayer hnodup (by rw [hn]; rfl) hparts es
  have hbehind (v : Value) : at? (n :: ks) v = (at? [n] v).bind (at? ks) := by
    show _ = ((Pairs.at? n v.entries).bind some).bind (at? ks)
    rw [Option.bind_fun_some]
    rfl
  rw [hbehind, hbehind, ← List.nil_append [n], hroot]
  show _ = overlay _ ((Pairs.at? n layer).bind (at? ks))
  cases hw : Pairs.at? n layer with
  | none => rfl
  | some w => exact at?_merge (hnext w hw) _

/-- What the environment variables give is the layer under all others. -/
theorem at?_base {base : Settings} {v : Value} (hv : ofJson? base.toJson = some v) {ℓ : Leaf Settings} (hℓ : ℓ ∈ leaves) :
    ∃ x, at? ℓ.path (table (Path.setLayer v.entries [])) = some x ∧ x.isTable = false ∧
      ℓ.kind.read x = some (ℓ.get base) := by
  obtain ⟨hleads, x, hx, hwrite⟩ := at?_ofJson (leadsTo_toJson base ℓ hℓ) hv
  obtain ⟨n, hn, ks, hpath⟩ := exists_rootName hℓ
  rw [toJson, ofJson?] at hv
  obtain ⟨es, hes, rfl⟩ := Option.map_eq_some_iff.1 hv
  have hnames : ∀ e ∈ es, e.1 = n ∨ (Path.ofText e.1).head ≠ n := by
    intro e he
    have hkey : e.1 ∈ es.map Prod.fst := List.mem_map_of_mem he
    rw [keys_ofMembers hes] at hkey
    rw [ofText_section e.1 hkey]
    exact Decidable.em _
  have hlayer := at?_setLayer_of_names (ofText_rootName n hn) hnames (hpath ▸ hleads) []
  rw [← hpath, hx, overlay, merge_of_not_isTable (ℓ.kind.isTable_write hwrite)] at hlayer
  exact ⟨x, hlayer, ℓ.kind.isTable_write hwrite, ℓ.kind.read_write hwrite⟩

/-- What a plain file has for a setting. -/
theorem Plain.at?_setLayer {file : Entries} (h : Plain file) (hdistinct : (table file).Distinct) {ℓ : Leaf Settings}
    (hℓ : ℓ ∈ leaves) (es : Entries) : at? ℓ.path (table (Path.setLayer file es)) =
      overlay (at? ℓ.path (table es)) (at? ℓ.path (table file)) := by
  obtain ⟨n, hn, ks, hpath⟩ := exists_rootName hℓ
  have hleads := h.leads hdistinct hℓ
  rw [hpath] at hleads ⊢
  exact at?_setLayer_of_names (ofText_rootName n hn) (fun e he => h.names e he n hn) hleads es

/-! Loading. -/

def isEmptyTable : Value → Bool
  | table [] => true
  | _ => false

/-- What a file has for the setting at a path. An empty table is nothing. -/
def filed? (file : Entries) (path : List String) : Option Value :=
  ((table file).at? path).filter fun v => !isEmptyTable v

/-- What a setting is: as the variable that names it has it, or else the file, or else as it is given. -/
def Leaf.layered? (ℓ : Leaf Settings) (v : Variables) (file : Entries) (base : Settings) : Option ℓ.Content :=
  match override? v ℓ.text, filed? file ℓ.path with
  | some text, _ => ℓ.kind.read (ofText text)
  | none, some x => ℓ.kind.read x
  | none, none => some (ℓ.get base)

/-- A value that is merged into a single setting is read as it was, unless it is an empty table. -/
theorem Kind.read_merge {α : Type} (kind : Kind α) {old : Value} (hold : old.isTable = false) {v : Value}
    (hv : v.Distinct) : kind.read (merge (some old) v) = if isEmptyTable v then kind.read old else kind.read v := by
  cases v with
  | table es =>
    cases es with
    | nil => rfl
    | cons e es =>
      have hentries : old.entries = [] := by cases old <;> first | rfl | cases hold
      refine kind.read_keys ?_
      show (setKeys old.entries (e :: es)).map Prod.fst = _
      rw [hentries, keys_setKeys [] (hv [] _ rfl)]
      rfl
  | _ => rfl

theorem orFault_eq_ok {α : Type} {f : LoadFault} {o : Option α} {a : α} : orFault f o = .ok a ↔ o = some a := by
  cases o <;> simp [orFault]

/-- The three layers, and the settings that are read from them. -/
theorem read_of_layered {base s : Settings} {v : Variables} {files : Files} {file : Entries}
    (h : layered base v files = .ok s) (hfile : fileLayer files base.environment = .ok file) :
    ∃ d, ofJson? base.toJson = some d ∧
      read? format (table (Path.setLayer (overrides v) (Path.setLayer file (Path.setLayer d.entries [])))) = some s := by
  unfold layered at h
  cases hbase : orFault .oversized (ofJson? base.toJson) with
  | error f =>
    rw [hbase] at h
    cases h
  | ok d =>
    rw [hbase, hfile] at h
    exact ⟨d, orFault_eq_ok.1 hbase, orFault_eq_ok.1 h⟩

theorem get_of_layered {base s : Settings} {v : Variables} {files : Files} {file : Entries}
    (h : layered base v files = .ok s) (hfile : fileLayer files base.environment = .ok file) (hplain : Plain file)
    (hproper : Proper v) {ℓ : Leaf Settings} (hℓ : ℓ ∈ leaves) : ℓ.layered? v file base = some (ℓ.get s) := by
  obtain ⟨d, hbase, hread⟩ := read_of_layered h hfile
  obtain ⟨x, hx, htable, hgiven⟩ := at?_base hbase hℓ
  have hdistinct := distinct_fileLayer hfile
  have hfound := hproper.at?_setLayer hℓ (Path.setLayer file (Path.setLayer d.entries []))
  rw [hplain.at?_setLayer hdistinct hℓ, hx] at hfound
  have hreads := reads hread ℓ hℓ
  unfold Leaf.layered? filed?
  cases hoverride : override? v ℓ.text with
  | some text =>
    rw [hoverride, Option.map_some, overlay, merge_of_not_isTable (isTable_ofText text)] at hfound
    exact hreads _ hfound
  | none =>
    rw [hoverride, Option.map_none] at hfound
    cases hfiled : (table file).at? ℓ.path with
    | none =>
      rw [hfiled] at hfound
      exact hgiven.symm.trans (hreads _ hfound)
    | some y =>
      rw [hfiled] at hfound
      have hsame := hreads _ hfound
      rw [ℓ.kind.read_merge htable (hdistinct.at? hfiled)] at hsame
      cases hy : isEmptyTable y with
      | true =>
        rw [hy, if_pos rfl, hgiven] at hsame
        rw [Option.filter_some, hy]
        exact hsame
      | false =>
        rw [hy] at hsame
        rw [Option.filter_some, hy]
        exact hsame

/-- The settings that are loaded are the ones of which each is as the variable that names it has it, or else the file of
the environment, or else as the environment variables give it. -/
theorem load_layers {v : Variables} {files : Files} {s : Settings} {file : Entries} (h : load v files = .ok s)
    (hfile : fileLayer files (ofVariables (v.completed files)).environment = .ok file) (hplain : Plain file)
    (hproper : Proper (v.completed files)) (s' : Settings) :
    s' = s ↔ ∀ ℓ ∈ leaves, ℓ.layered? (v.completed files) file (ofVariables (v.completed files)) = some (ℓ.get s') := by
  have hget : ∀ ℓ ∈ leaves, ℓ.layered? (v.completed files) file (ofVariables (v.completed files)) = some (ℓ.get s) :=
    fun ℓ hℓ => get_of_layered h hfile hplain hproper hℓ
  constructor
  · rintro rfl
    exact hget
  · intro h'
    exact eq_of_leaves fun ℓ hℓ => Option.some.inj ((h' ℓ hℓ).symm.trans (hget ℓ hℓ))

theorem exists_of_any {ε α : Type} {r : Except ε α} {P : α → Prop} [DecidablePred P]
    (h : (r.toOption.any fun a => decide (P a)) = true) : ∃ a, r = .ok a ∧ P a := by
  cases r with
  | error e => cases h
  | ok a => exact ⟨a, rfl, of_decide_eq_true h⟩

/-- A file under two variables that name something, of which one names a setting that the file has. -/
theorem load_layers_over_file : ∃ v files s file, load v files = .ok s ∧
    fileLayer files (ofVariables (v.completed files)).environment = .ok file ∧ Plain file ∧ Proper (v.completed files) ∧
    (s.server.port = 7000 ∧ s.server.host = "h" ∧ s.jwt.issuer = "x" ∧ s.server.workers = 4) ∧
    ∀ ℓ ∈ leaves, ℓ.layered? (v.completed files) file (ofVariables (v.completed files)) = some (ℓ.get s) := by
  let v : Variables :=
    .ofList [("TOKENKEEP__SERVER__PORT", "7000"), ("SERVER_WORKERS", "4"), ("TOKENKEEP__FOO__BAR", "1")]
  let files : Files := .ofList
    [("config.development.toml", "[server]\nport = 9000\nhost = \"h\"\n[auth.jwt]\nissuer = \"x\"\n")]
  obtain ⟨s, hload, hs⟩ := exists_of_any (r := load v files)
    (P := fun s => s.server.port = 7000 ∧ s.server.host = "h" ∧ s.jwt.issuer = "x" ∧ s.server.workers = 4)
    (by decide +kernel)
  obtain ⟨file, hfile, hplain⟩ := exists_of_any
    (r := fileLayer files (ofVariables (v.completed files)).environment) (P := Plain) (by decide +kernel)
  have hproper : Proper (v.completed files) := .of_lower (by decide +kernel) (by decide +kernel) (by decide +kernel)
  exact ⟨v, files, s, file, hload, hfile, hplain, hproper, hs, (load_layers hload hfile hplain hproper s).1 rfl⟩

/-- Three times a setting is not as its own name in the layers has it. A name with a point is not the name of a setting,
but it can lead to one; an empty table is no setting, but it does no harm where there should be one; and items of a
section, which no setting is named by, take the places of its settings. -/
theorem settings_under_other_names :
    (∃ file, fileLayer (.ofList [("config.development.toml", "\"environment.staging\" = 1\n")]) .development = .ok file ∧
      file.map Prod.fst = ["environment.staging"] ∧ (ofVariables .empty).environment = .development ∧
      load .empty (.ofList [("config.development.toml", "\"environment.staging\" = 1\n")]) =
        .ok { ofVariables .empty with environment := .staging }) ∧
    (∃ file, fileLayer (.ofList [("config.development.toml", "[server]\nport = \x7b\x7d\n")]) .development = .ok file ∧
      Plain file ∧ ((table file).at? ["server", "port"]).any isEmptyTable = true ∧ Kind.word16.read (table []) = none ∧
      load .empty (.ofList [("config.development.toml", "[server]\nport = \x7b\x7d\n")]) = .ok (ofVariables .empty)) ∧
    ∃ v : Variables,
      v.entries.map Prod.fst = ["TOKENKEEP__AUTH__JWT[0]", "TOKENKEEP__AUTH__JWT[1]", "TOKENKEEP__AUTH__JWT[2]",
        "TOKENKEEP__AUTH__JWT[3]"] ∧
      (∀ ℓ ∈ leaves, override? v ℓ.text = none) ∧ ofVariables v = ofVariables .empty ∧
      load v .empty = .ok { ofVariables .empty with
        jwt := { Jwt.standard with secret := "s", accessExpiry := 1, refreshExpiry := 2, issuer := "i" } } := by
  refine ⟨?_, ?_, ?_⟩
  · obtain ⟨file, hfile, hkeys⟩ := exists_of_any
      (r := fileLayer (.ofList [("config.development.toml", "\"environment.staging\" = 1\n")]) .development)
      (P := fun file => file.map Prod.fst = ["environment.staging"]) (by decide +kernel)
    obtain ⟨_, hload, rfl⟩ := exists_of_any
      (r := load .empty (.ofList [("config.development.toml", "\"environment.staging\" = 1\n")]))
      (P := fun s => s = { ofVariables .empty with environment := .staging }) (by decide +kernel)
    exact ⟨file, hfile, hkeys, by decide +kernel, hload⟩
  · obtain ⟨file, hfile, hplain, hport⟩ := exists_of_any
      (r := fileLayer (.ofList [("config.development.toml", "[server]\nport = \x7b\x7d\n")]) .development)
      (P := fun file => Plain file ∧ ((table file).at? ["server", "port"]).any isEmptyTable = true) (by decide +kernel)
    obtain ⟨_, hload, rfl⟩ := exists_of_any
      (r := load .empty (.ofList [("config.development.toml", "[server]\nport = \x7b\x7d\n")]))
      (P := fun s => s = ofVariables .empty) (by decide +kernel)
    exact ⟨file, hfile, hplain, hport, rfl, hload⟩
  · let v : Variables := .ofList [("TOKENKEEP__AUTH__JWT[0]", "s"), ("TOKENKEEP__AUTH__JWT[1]", "1"),
      ("TOKENKEEP__AUTH__JWT[2]", "2"), ("TOKENKEEP__AUTH__JWT[3]", "i")]
    obtain ⟨_, hload, rfl⟩ := exists_of_any (r := load v .empty)
      (P := fun s => s = { ofVariables .empty with
        jwt := { Jwt.standard with secret := "s", accessExpiry := 1, refreshExpiry := 2, issuer := "i" } })
      (by decide +kernel)
    exact ⟨v, by decide +kernel, by decide +kernel, by decide +kernel, hload⟩

end Bearer.Settings
