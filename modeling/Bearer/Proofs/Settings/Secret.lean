import Bearer.Proofs.Settings.Layers
import Bearer.Startup.Service
import Mathlib.Data.List.Basic
/-! Whose secret signs the tokens when nobody has set one. A text that is found for the secret in layered settings was
in a lower layer already, or an entry has given it; without such an entry the secret is the one that the environment
presets. There are two of these, and only that of development is warned of. -/

namespace Bearer.Settings

open Value

namespace Value

/-- What the first field of a section is taken from: an array has it in its first item. -/
def leading? (name : String) : Value → Option Value
  | table es => Pairs.at? name es
  | array items => items.head?
  | _ => none

/-- The text behind some names, each of the first field of a section. -/
def given? : List String → Value → Option String
  | [], v => text? v
  | n :: ns, v => (leading? n v).bind (given? ns)

/-- The text that a value gives to what is behind some names when it is set behind some steps. The first item of an
array is taken for the field that is named, and one that is counted from the end can be the first. -/
def supplied? : List Step → List String → Value → Option String
  | [], ns, v => given? ns v
  | .key k :: steps, n :: ns, v => if k = n then supplied? steps ns v else none
  | .item i :: steps, _ :: ns, v => if i ≤ 0 then supplied? steps ns v else none
  | _ :: _, [], _ => none

theorem leading?_of_entries {k : String} {v w : Value} (h : Pairs.at? k v.entries = some w) : leading? k v = some w := by
  cases v with
  | table es => exact h
  | _ => cases h

theorem given?_of_leading {n : String} {v w : Value} (h : leading? n v = some w) (ns : List String) :
    given? (n :: ns) v = given? ns w := by
  rw [given?, h]
  rfl

/-- What is found behind names gives its text to them. -/
theorem given?_of_at? {ns : List String} {v w : Value} (h : at? ns v = some w) : given? ns v = text? w := by
  induction ns generalizing v with
  | nil =>
    cases h
    rfl
  | cons n ns ih =>
    obtain ⟨x, hx, hw⟩ := Option.bind_eq_some_iff.1 h
    rw [given?_of_leading (leading?_of_entries hx), ih hw]

@[simp] theorem given?_nil (ns : List String) : given? ns nil = none := by
  cases ns <;> rfl

@[simp] theorem given?_table_nil (ns : List String) : given? ns (table []) = none := by
  cases ns <;> rfl

/-- A missing value gives no text. -/
theorem given?_of_getD {o : Option Value} {d : Value} {ns : List String} {x : String} (hd : given? ns d = none)
    (h : given? ns (o.getD d) = some x) : o.bind (given? ns) = some x := by
  cases o with
  | none =>
    rw [Option.getD_none, hd] at h
    cases h
  | some w => exact h

theorem given?_of_entries {n : String} {ns : List String} {v : Value} {x : String}
    (h : (Pairs.at? n v.entries).bind (given? ns) = some x) : given? (n :: ns) v = some x := by
  obtain ⟨w, hw, hx⟩ := Option.bind_eq_some_iff.1 h
  rw [given?_of_leading (leading?_of_entries hw), hx]

/-- A text in a merged value is from the one or the other. -/
theorem given?_merge {v : Value} (hv : v.Distinct) {old : Option Value} {ns : List String} {x : String}
    (h : given? ns (merge old v) = some x) : given? ns v = some x ∨ old.bind (given? ns) = some x := by
  induction ns generalizing old v with
  | nil =>
    rcases v with _ | _ | _ | _ | _ | _ | (_ | ⟨e, es⟩)
    case table.nil => exact Or.inr (given?_of_getD (given?_table_nil []) h)
    case table.cons => cases h
    all_goals exact Or.inl h
  | cons n ns ih =>
    rcases v with _ | _ | _ | _ | _ | _ | (_ | ⟨e, es⟩)
    case table.nil => exact Or.inr (given?_of_getD (given?_table_nil _) h)
    case table.cons =>
      have hold {x : String} (h : (Pairs.at? n (old.getD nil).entries).bind (given? ns) = some x) :
          old.bind (given? (n :: ns)) = some x :=
        given?_of_getD (given?_nil _) (given?_of_entries h)
      change (Pairs.at? n (setKeys (old.getD nil).entries (e :: es))).bind (given? ns) = some x at h
      rw [at?_setKeys (hv [] _ rfl)] at h
      cases hw : Pairs.at? n (e :: es) with
      | none =>
        rw [hw] at h
        exact Or.inr (hold h)
      | some w =>
        have hdistinct : w.Distinct := hv.of_mem (mem_of_at? hw)
        rw [hw] at h
        refine (ih hdistinct h).imp (fun hx => ?_) hold
        rw [given?_of_leading (leading?_of_entries hw), hx]
    all_goals exact Or.inl h

end Value

namespace Path

/-- An array that reaches to an index has the first item that it had, if it had one. -/
theorem reaching_eq_cons (place : Nat) (xs : List Value) : ∃ rest, reaching place xs = xs.head?.getD .nil :: rest := by
  cases xs with
  | nil => exact ⟨List.replicate place .nil, rfl⟩
  | cons x xs => exact ⟨_, rfl⟩

theorem le_zero_of_position {i : Int} {length : Nat} (h : position i length = 0) : i ≤ 0 := by
  unfold position at h
  split at h <;> omega

theorem given?_of_items {n : String} {ns : List String} {v : Value} {x : String}
    (h : given? ns ((items v).head?.getD .nil) = some x) : given? (n :: ns) v = some x := by
  have hitems := given?_of_getD (given?_nil ns) h
  cases v with
  | array xs => exact hitems
  | _ => cases hitems

/-- A text behind an item that is changed was there, or the change gives it and the item can be the first. -/
theorem given?_of_modify {n : String} {ns : List String} {i : Int} {f : Value → Value} {w : Value} {x : String}
    (h : given? (n :: ns) (array ((reaching (position i (items w).length) (items w)).modify
      (position i (items w).length) f)) = some x) :
    (i ≤ 0 ∧ given? ns (f ((items w).head?.getD .nil)) = some x) ∨ given? (n :: ns) w = some x := by
  obtain ⟨rest, hrest⟩ := reaching_eq_cons (position i (items w).length) (items w)
  rw [hrest] at h
  cases hplace : position i (items w).length with
  | zero =>
    rw [hplace] at h
    exact Or.inl ⟨le_zero_of_position hplace, h⟩
  | succ place =>
    rw [hplace] at h
    exact Or.inr (given?_of_items h)

/-- A text behind a step was there, or comes with what is set. -/
theorem given?_change {v : Value} (hv : v.Distinct) {steps : List Step} {last : Step} {ns : List String} {w : Value}
    {x : String} (h : given? ns (change (setStep v last) steps w) = some x) :
    supplied? (steps ++ [last]) ns v = some x ∨ given? ns w = some x := by
  induction steps generalizing ns w with
  | nil =>
    cases ns with
    | nil => cases last <;> cases h
    | cons n ns =>
      cases last with
      | key k =>
        change (Pairs.at? n (setKey w.entries k v)).bind (given? ns) = some x at h
        rw [at?_setKey] at h
        split at h
        · next hk =>
          subst hk
          refine (given?_merge hv h).imp (fun hx => ?_) given?_of_entries
          rw [List.nil_append, supplied?, if_pos rfl]
          exact hx
        · exact Or.inr (given?_of_entries h)
      | item i =>
        change given? (n :: ns) (array ((reaching _ (items w)).set (position i (items w).length) v)) = some x at h
        rw [List.set_eq_modify] at h
        rcases given?_of_modify h with ⟨hi, hx⟩ | hx
        · rw [List.nil_append, supplied?, if_pos hi]
          exact Or.inl hx
        · exact Or.inr hx
  | cons step steps ih =>
    cases ns with
    | nil => cases step <;> cases h
    | cons n ns =>
      cases step with
      | key k =>
        change (Pairs.at? n (Pairs.put k (change _ steps ((Pairs.at? k w.entries).getD nil)) w.entries)).bind
          (given? ns) = some x at h
        rw [Pairs.at?_put] at h
        split at h
        · next hk =>
          subst hk
          rw [List.cons_append, supplied?, if_pos rfl]
          exact (ih h).imp_right fun hx => given?_of_entries (given?_of_getD (given?_nil ns) hx)
        · exact Or.inr (given?_of_entries h)
      | item i =>
        rcases given?_of_modify (f := change (setStep v last) steps) h with ⟨hi, hx⟩ | hx
        · rw [List.cons_append, supplied?, if_pos hi]
          exact (ih hx).imp_right given?_of_items
        · exact Or.inr hx

/-- A text in the settings under a layer and the layer is from these settings, or an entry of the layer gives it. -/
theorem given?_setLayer {layer : Entries} (hlayer : ∀ e ∈ layer, e.2.Distinct) {es : Entries} {ns : List String}
    {x : String} (h : given? ns (table (setLayer layer es)) = some x) :
    (∃ e ∈ layer, supplied? (ofText e.1).all ns e.2 = some x) ∨ given? ns (table es) = some x := by
  induction layer generalizing es with
  | nil => exact Or.inr h
  | cons e layer ih =>
    obtain ⟨he, hlayer⟩ := List.forall_mem_cons.1 hlayer
    rcases ih hlayer h with ⟨e', he', hx⟩ | hx
    · exact Or.inl ⟨e', List.mem_cons_of_mem _ he', hx⟩
    · obtain ⟨steps, last, hall⟩ := (ofText e.1).exists_last
      rw [table_set hall] at hx
      refine (given?_change he hx).imp_left fun hx => ⟨e, List.mem_cons_self, ?_⟩
      rw [hall]
      exact hx

end Path

/-- A record has its first field where the value that it is read from has it. -/
theorem lookup_of_record {k : String} {names : List String} {v : Value} {r : Entries}
    (h : record? (k :: names) v = some r) : r.lookup k = leading? k v := by
  cases v with
  | table es =>
    obtain rfl : es = r := Option.some.inj h
    exact Pairs.lookup_eq_at? k es
  | array items =>
    cases h
    cases items with
    | nil => rfl
    | cons x xs => simp [leading?]
  | _ => cases h

/-- The text that an entry of a layer gives to the secret. Both sections that the secret is in have it in their first
field. -/
def secret? (e : String × Value) : Option String := supplied? (Path.ofText e.1).all ["auth", "jwt", "secret"] e.2

theorem given?_of_read {es : Entries} {s : Settings} (h : read? format (table es) = some s) :
    given? ["auth", "jwt", "secret"] (table es) = some s.jwt.secret := by
  simp only [read?, Option.bind_eq_bind, Option.bind_eq_some_iff, Option.some.injEq] at h
  obtain ⟨r, hr, _, -, _, -, _, -, jwt, hjwt, _, -, _, -, _, -, rfl⟩ := h
  obtain rfl : es = r := Option.some.inj hr
  obtain ⟨auth, hauth, hjwt⟩ := Option.bind_eq_some_iff.1 hjwt
  simp only [readAuth?, Option.bind_eq_bind, Option.bind_eq_some_iff] at hjwt
  obtain ⟨r, hr, hjwt⟩ := hjwt
  obtain ⟨inner, hinner, hjwt⟩ := Option.bind_eq_some_iff.1 hjwt
  simp only [Jwt.read?, Option.bind_eq_bind, Option.bind_eq_some_iff, Option.some.injEq] at hjwt
  obtain ⟨r', hr', secret, hsecret, _, -, _, -, _, -, _, -, _, -, rfl⟩ := hjwt
  obtain ⟨x, hx, htext⟩ := Option.bind_eq_some_iff.1 hsecret
  rw [Pairs.lookup_eq_at?] at hauth
  rw [lookup_of_record hr] at hinner
  rw [lookup_of_record hr'] at hx
  calc given? ["auth", "jwt", "secret"] (table es)
      = given? ["jwt", "secret"] auth := given?_of_leading (leading?_of_entries hauth) _
    _ = given? ["secret"] inner := given?_of_leading hinner _
    _ = text? x := given?_of_leading hx _
    _ = some secret := htext

/-- If no entry of a layer gives a text to the secret, it stays as it was given. -/
theorem secret_of_layered {base s : Settings} {v : Variables} {files : Files} {file : Entries}
    (h : layered base v files = .ok s) (hfile : fileLayer files base.environment = .ok file)
    (hfiled : ∀ e ∈ file, secret? e = none) (hnamed : ∀ e ∈ overrides v, secret? e = none) :
    s.jwt.secret = base.jwt.secret := by
  obtain ⟨d, hbase, hread⟩ := read_of_layered h hfile
  have hleaf : ⟨["auth", "jwt", "secret"], _, .text, fun s => s.jwt.secret⟩ ∈ leaves := by
    simp [leaves, Jwt.leaves, Leaf.under]
  obtain ⟨x, hx, -, htext⟩ := at?_base hbase hleaf
  have hgiven := given?_of_read hread
  rcases Path.given?_setLayer (fun e he => distinct_of_not_isTable (isTable_of_mem_overrides he)) hgiven with
    ⟨e, he, hsome⟩ | hgiven
  · rw [show supplied? _ _ e.2 = none from hnamed e he] at hsome
    cases hsome
  rcases Path.given?_setLayer (fun e he => (distinct_fileLayer hfile).of_mem he) hgiven with ⟨e, he, hsome⟩ | hgiven
  · rw [show supplied? _ _ e.2 = none from hfiled e he] at hsome
    cases hsome
  rw [given?_of_at? hx] at hgiven
  exact Option.some.inj (hgiven.symm.trans htext)

theorem secret_ofVariables {v : Variables} (h : v.get? "JWT_SECRET" = none) :
    (ofVariables v).jwt.secret = (preset v.environment).jwt.secret := by
  simp [ofVariables, h]

theorem secret_preset (e : Environment) :
    (preset e).jwt.secret = if e = .development then Jwt.builtInSecret else "use-env-variable" := by
  cases e <;> rfl

/-- Where the variable for the secret is not set and no entry of the file or among the variables that name a setting
gives one, the secret is one that is built in: that of development, or the one that the other environments preset. A
service that does not run in development is warned of the former only, and that is where the variables name
development and the file or a variable puts another environment in its place. -/
theorem isExposed_of_unset {v : Variables} {files : Files} {s : Settings} {file : Entries} (h : load v files = .ok s)
    (hfile : fileLayer files (ofVariables (v.completed files)).environment = .ok file)
    (hunset : (v.completed files).get? "JWT_SECRET" = none) (hfiled : ∀ e ∈ file, secret? e = none)
    (hnamed : ∀ e ∈ overrides (v.completed files), secret? e = none) (henvironment : s.environment ≠ .development) :
    s.jwt.secret = (if (v.completed files).environment = .development then Jwt.builtInSecret else "use-env-variable") ∧
      (Startup.isExposed s = true ↔ (v.completed files).environment = .development) := by
  have hsecret := secret_of_layered h hfile hfiled hnamed
  rw [secret_ofVariables hunset, secret_preset] at hsecret
  refine ⟨hsecret, ?_⟩
  have hrequires : s.environment.requiresSecret = true := by
    simp [Environment.requiresSecret, Environment.isDevelopment, henvironment]
  rw [Startup.isExposed, hrequires, Bool.true_and, Jwt.usesBuiltInSecret, hsecret, beq_iff_eq]
  split
  · next hdevelopment => exact iff_of_true rfl hdevelopment
  · next hother => exact iff_of_false (by decide) hother

/-- A production service whose file and variables set other things: it signs with the secret that production presets,
and nobody is warned. -/
theorem isExposed_of_unset_in_production : ∃ v files s file, load v files = .ok s ∧
    fileLayer files (ofVariables (v.completed files)).environment = .ok file ∧
    (v.completed files).get? "JWT_SECRET" = none ∧ (∀ e ∈ file, secret? e = none) ∧
    (∀ e ∈ overrides (v.completed files), secret? e = none) ∧ s.environment = .production ∧ s.jwt.issuer = "x" ∧
    s.jwt.secret = "use-env-variable" ∧ Startup.isExposed s = false := by
  let v : Variables := .ofList [("TOKENKEEP_ENV", "production"), ("TOKENKEEP__AUTH__JWT__ISSUER", "x")]
  let files : Files := .ofList [("config.production.toml", "[auth.jwt]\naccess_token_expiry = 60\n")]
  obtain ⟨s, hload, henvironment, hissuer⟩ := exists_of_any (r := load v files)
    (P := fun s => s.environment = .production ∧ s.jwt.issuer = "x") (by decide +kernel)
  obtain ⟨file, hfile, hfiled⟩ := exists_of_any (r := fileLayer files (ofVariables (v.completed files)).environment)
    (P := fun file => ∀ e ∈ file, secret? e = none) (by decide +kernel)
  have hunset : (v.completed files).get? "JWT_SECRET" = none := by decide +kernel
  have hnamed : ∀ e ∈ overrides (v.completed files), secret? e = none := by decide +kernel
  have hvariables : ¬(v.completed files).environment = .development := by decide +kernel
  obtain ⟨hsecret, hexposed⟩ := isExposed_of_unset hload hfile hunset hfiled hnamed (by rw [henvironment]; decide)
  rw [if_neg hvariables] at hsecret
  exact ⟨v, files, s, file, hload, hfile, hunset, hfiled, hnamed, henvironment, hissuer, hsecret,
    Bool.eq_false_iff.2 (mt hexposed.1 hvariables)⟩

end Bearer.Settings
