import Bearer.Proofs.Settings.Independent
import Bearer.Proofs.Settings.Layers
import Bearer.Proofs.Settings.Written
/-! The lowest layer on its own. A layer is faithful to the document it is made of, and the first one that is laid down
stays as it is; so without a file and without variables that name settings, what the environment variables give is what
is loaded, unless it has a number that is too large for a layer. -/

namespace Bearer.Settings

open Value

namespace Value

/-- A layer says what is written in the document. -/
theorem faithful_format : format.Faithful fun j v => ofJson? j = some v where
  text := by
    rintro s _ ⟨⟩
    rfl
  flag := by
    rintro b _ ⟨⟩
    rfl
  unsigned := by
    intro bits n v hn h
    obtain ⟨rfl, -, hlt⟩ := Kind.eq_int_of_num (Numeral.toInt?_ofNat n) h
    have hcount : Bits.count 64 = 2 ^ 64 := rfl
    show unsigned? bits (int n) = some n
    rw [unsigned?, number?, if_pos ⟨by omega, by omega⟩]
    exact congrArg some (Nat.mod_eq_of_lt hn)
  signed := by
    intro i v hi h
    obtain ⟨rfl, hle, hlt⟩ := Kind.eq_int_of_num (Numeral.toInt?_ofInt i) h
    exact if_pos ⟨hle, Int.le_sub_one_of_lt hlt⟩
  caseName := by
    rintro s _ ⟨⟩
    rfl
  absent := by
    rintro _ ⟨⟩
    rfl
  present := by
    rintro s _ ⟨⟩
    rfl
  record := by
    intro names members v _ _ h
    obtain ⟨es, hes, rfl⟩ := Option.map_eq_some_iff.1 h
    refine ⟨es, rfl, fun k j hk => ?_⟩
    obtain ⟨w, hw, hwrite⟩ := at?_ofMembers hes hk
    exact ⟨w, (Pairs.lookup_eq_at? k es).trans hw, hwrite⟩

mutual

/-- A value without a key twice is put under a new key as it is. -/
theorem setKey_of_notMem {k : String} {es : Entries} (hk : k ∉ es.map Prod.fst) :
    (v : Value) → v.Distinct → setKey es k v = es ++ [(k, v)]
  | nil, _ => Pairs.put_of_notMem hk _
  | flag _, _ => Pairs.put_of_notMem hk _
  | int _, _ => Pairs.put_of_notMem hk _
  | float _, _ => Pairs.put_of_notMem hk _
  | text _, _ => Pairs.put_of_notMem hk _
  | array _, _ => Pairs.put_of_notMem hk _
  | table [], _ => by
    rw [setKey, Pairs.at?_eq_none k es hk]
    exact Pairs.put_of_notMem hk _
  | table (e :: vs), hv => by
    have hkept := setKeys_append (e :: vs) [] (hv [] _ rfl) fun x hx => hv.of_mem hx
    rw [setKey, Pairs.at?_eq_none k es hk]
    show Pairs.put k (table (setKeys [] (e :: vs))) es = _
    rw [hkept]
    exact Pairs.put_of_notMem hk _

/-- So are all entries of a table. -/
theorem setKeys_append : (vs es : Entries) → (es.map Prod.fst ++ vs.map Prod.fst).Nodup → (∀ e ∈ vs, e.2.Distinct) →
    setKeys es vs = es ++ vs
  | [], es, _, _ => by rw [setKeys, List.append_nil]
  | (k, v) :: vs, es, hnodup, hvs => by
    have hk : k ∉ es.map Prod.fst := fun hmem => List.nodup_append.1 hnodup |>.2.2 k hmem k (by simp) rfl
    have hset := setKey_of_notMem hk v (hvs (k, v) List.mem_cons_self)
    rw [setKeys, hset, setKeys_append vs (es ++ [(k, v)]) (by simpa using hnodup)
      fun e he => hvs e (List.mem_cons_of_mem _ he)]
    simp

end

end Value

theorem exists_of_mem_ofMembers {ms : List (String × Json)} {es : Entries} (h : ofMembers? ms = some es)
    {e : String × Value} (he : e ∈ es) : ∃ m ∈ ms, ofJson? m.2 = some e.2 := by
  induction ms generalizing es with
  | nil =>
    cases h
    cases he
  | cons m ms ih =>
    simp only [ofMembers?, Option.bind_eq_bind, Option.bind_eq_some_iff, Option.some.injEq] at h
    obtain ⟨v, hv, vs, hvs, rfl⟩ := h
    rcases List.mem_cons.1 he with rfl | he
    · exact ⟨m, List.mem_cons_self, hv⟩
    · obtain ⟨m', hm', hpart⟩ := ih hvs he
      exact ⟨m', List.mem_cons_of_mem _ hm', hpart⟩

/-- No key comes twice in the layer of an orderly document. -/
theorem distinct_of_ofJson {j : Json} (hj : j.Orderly) {v : Value} (h : ofJson? j = some v) : v.Distinct := by
  induction hj generalizing v with
  | null =>
    cases h
    exact distinct_of_not_isTable rfl
  | bool b =>
    cases h
    exact distinct_of_not_isTable rfl
  | str s =>
    cases h
    exact distinct_of_not_isTable rfl
  | nat n =>
    obtain ⟨rfl, -⟩ := Kind.eq_int_of_num (Numeral.toInt?_ofNat n) h
    exact distinct_of_not_isTable rfl
  | int i =>
    obtain ⟨rfl, -⟩ := Kind.eq_int_of_num (Numeral.toInt?_ofInt i) h
    exact distinct_of_not_isTable rfl
  | @obj members hkeys _ ih =>
    obtain ⟨es, hes, rfl⟩ := Option.map_eq_some_iff.1 h
    have hnodup : (es.map Prod.fst).Nodup := by rwa [keys_ofMembers hes]
    refine distinct_table hnodup fun e he => ?_
    obtain ⟨m, hm, hpart⟩ := exists_of_mem_ofMembers hes he
    exact ih m hm hpart

/-- A layer whose keys are the names of sections is put down key by key. -/
theorem setLayer_eq_setKeys {layer : Entries} (h : ∀ e ∈ layer, Path.ofText e.1 = ⟨e.1, []⟩) (es : Entries) :
    Path.setLayer layer es = setKeys es layer := by
  induction layer generalizing es with
  | nil => exact (setKeys.eq_1 es).symm
  | cons e layer ih =>
    obtain ⟨k, v⟩ := e
    have hk : Path.ofText k = ⟨k, []⟩ := h (k, v) List.mem_cons_self
    rw [setKeys, ← ih (fun e he => h e (List.mem_cons_of_mem _ he))]
    show Path.setLayer layer ((Path.ofText k).set v es) = _
    rw [hk]
    rfl

/-- The first layer stays as it is. -/
theorem setLayer_nil {s : Settings} {v : Value} (h : ofJson? s.toJson = some v) :
    table (Path.setLayer v.entries []) = v := by
  have hdistinct := distinct_of_ofJson s.orderly_toJson h
  rw [toJson, ofJson?] at h
  obtain ⟨es, hes, rfl⟩ := Option.map_eq_some_iff.1 h
  -- the keys are the names of the sections, so none of them is a longer path
  have hplain : ∀ e ∈ es, Path.ofText e.1 = ⟨e.1, []⟩ := by
    intro e he
    apply ofText_section
    have hmem : e.1 ∈ es.map Prod.fst := List.mem_map_of_mem he
    rwa [keys_ofMembers hes] at hmem
  apply congrArg table
  show Path.setLayer es [] = es
  rw [setLayer_eq_setKeys hplain]
  exact setKeys_append es [] (hdistinct [] es rfl) fun e he => hdistinct.of_mem he

/-! Which settings have a layer. -/

theorem isSome_ofMembers (ms : List (String × Json)) :
    (ofMembers? ms).isSome ↔ ∀ m ∈ ms, (ofJson? m.2).isSome := by
  induction ms with
  | nil => simp [ofMembers?]
  | cons m ms ih =>
    rw [List.forall_mem_cons, ← ih, ofMembers?]
    cases ofJson? m.2 <;> cases ofMembers? ms <;> simp

@[simp] theorem isSome_obj (ms : List (String × Json)) :
    (ofJson? (.obj ms)).isSome ↔ ∀ m ∈ ms, (ofJson? m.2).isSome := by
  rw [ofJson?, Option.isSome_map, isSome_ofMembers]

@[simp] theorem isSome_null : (ofJson? .null).isSome := rfl

@[simp] theorem isSome_str (s : String) : (ofJson? (.str s)).isSome := rfl

@[simp] theorem isSome_bool (b : Bool) : (ofJson? (.bool b)).isSome := rfl

theorem isSome_num {n : Numeral} {i : Int} (h : n.toInt? = some i) :
    (ofJson? (.num n)).isSome ↔ Bits.isSigned 64 i = true := by
  rw [ofJson?, h, Option.isSome_map, Option.isSome_filter, Option.any_some]

@[simp] theorem isSome_ofNat (n : Nat) : (ofJson? (.ofNat n)).isSome ↔ n < 2 ^ 63 := by
  have hleast : Bits.least 64 = -2 ^ 63 := rfl
  have hcount : Bits.count (64 - 1) = 2 ^ 63 := rfl
  rw [Json.ofNat, isSome_num (Numeral.toInt?_ofNat n), Bits.isSigned, decide_eq_true_iff, hleast, hcount]
  omega

@[simp] theorem isSome_word16 (n : UInt16) : (ofJson? (.ofNat n.toNat)).isSome :=
  (isSome_ofNat n.toNat).2 (Nat.lt_trans n.toNat_lt (by decide))

@[simp] theorem isSome_word32 (n : UInt32) : (ofJson? (.ofNat n.toNat)).isSome :=
  (isSome_ofNat n.toNat).2 (Nat.lt_trans n.toNat_lt (by decide))

@[simp] theorem isSome_ofInt (i : Int64) : (ofJson? (.ofInt i.toInt)).isSome :=
  (isSome_num (Numeral.toInt?_ofInt i.toInt)).2 (decide_eq_true ⟨i.le_toInt, i.toInt_lt⟩)

/-- The numbers of settings that have 64 bits and no sign. -/
def words (s : Settings) : List UInt64 :=
  [s.server.workers, s.server.keepAlive, s.server.maxPayload, s.database.connectTimeout, s.database.idleTimeout,
    s.database.maxLifetime, s.database.slowQuery, s.jwt.refreshBytes, s.cache.retryDelay, s.cache.ttl]

/-- Settings have a layer unless one of their numbers needs all the 64 bits. -/
theorem isSome_toJson (s : Settings) : (ofJson? s.toJson).isSome ↔ ∀ n ∈ s.words, n.toNat < 2 ^ 63 := by
  rcases s with ⟨_, _, _, _, ⟨_, _, _, _, _ | _⟩, _, _⟩ <;>
  simp [words, toJson, Server.toJson, Database.toJson, authJson, Jwt.toJson, Cache.toJson, Storage.toJson,
    Logging.toJson, and_assoc]

/-! Loading. -/

section

variable {v : Variables} {files : Files}

/-- Without a variable that names a setting there is nothing to put over the file. -/
theorem overrides_eq_nil (h : ∀ e ∈ v.entries, overridden? e.1 = none) : overrides v = [] := by
  obtain ⟨-, hnames⟩ := keys_overrides v
  apply List.map_eq_nil_iff.1
  apply List.eq_nil_iff_forall_not_mem.2
  intro text htext
  obtain ⟨e, he, hname⟩ := hnames text htext
  rw [h e he] at hname
  cases hname

/-- Without a file for the environment there is nothing to put over what the variables give. -/
theorem fileLayer_eq_nil {e : Environment} (h : ∀ name ∈ fileNames e, files.get? name = none) :
    fileLayer files e = .ok [] := by
  have htext : fileText? files e = none := List.findSome?_eq_none_iff.2 h
  rw [fileLayer, htext]

theorem environment_ofVariables (v : Variables) : (ofVariables v).environment = v.environment := by
  show (preset v.environment).environment = v.environment
  cases v.environment <;> rfl

/-- The numbers that no variable gives are as they are everywhere. -/
theorem fixed_ofVariables (v : Variables) :
    (ofVariables v).server.keepAlive = 30 ∧ (ofVariables v).server.maxPayload = 16384 ∧
      (ofVariables v).database.idleTimeout = 600 ∧ (ofVariables v).database.maxLifetime = 1800 ∧
      (ofVariables v).jwt.refreshBytes = 64 ∧ (ofVariables v).cache.retryDelay = 100 := by
  unfold ofVariables
  refine ⟨?_, ?_, ?_, ?_, ?_, ?_⟩ <;> cases v.environment <;> dsimp only <;> first | rfl | (split <;> rfl)

/-- Of the numbers that have 64 bits and no sign only four can be large. -/
theorem words_ofVariables (v : Variables) : (∀ n ∈ (ofVariables v).words, n.toNat < 2 ^ 63) ↔
    (ofVariables v).server.workers.toNat < 2 ^ 63 ∧ (ofVariables v).database.connectTimeout.toNat < 2 ^ 63 ∧
      (ofVariables v).database.slowQuery.toNat < 2 ^ 63 ∧ (ofVariables v).cache.ttl.toNat < 2 ^ 63 := by
  obtain ⟨hkeepAlive, hmaxPayload, hidle, hlife, hbytes, hdelay⟩ := fixed_ofVariables v
  simp [words, hkeepAlive, hmaxPayload, hidle, hlife, hbytes, hdelay]

/-- Under no other layer the lowest one is loaded as it is. -/
theorem layered_of_words (s : Settings) (hfile : ∀ name ∈ fileNames s.environment, files.get? name = none)
    (hoverride : ∀ e ∈ v.entries, overridden? e.1 = none) (hwords : ∀ n ∈ s.words, n.toNat < 2 ^ 63) :
    layered s v files = .ok s := by
  obtain ⟨d, hd⟩ := Option.isSome_iff_exists.1 (s.isSome_toJson.2 hwords)
  have hread : read? format d = some s := read?_of_stands faithful_format hd
  have hbase := setLayer_nil hd
  unfold layered
  rw [hd, fileLayer_eq_nil hfile, overrides_eq_nil hoverride]
  show orFault .unfit (read? format (table (Path.setLayer d.entries []))) = .ok s
  rw [hbase, hread]
  rfl

theorem layered_of_not_words (s : Settings) (hwords : ¬∀ n ∈ s.words, n.toNat < 2 ^ 63) :
    layered s v files = .error .oversized := by
  rw [← isSome_toJson, Option.not_isSome_iff_eq_none] at hwords
  unfold layered
  rw [hwords]
  rfl

/-- Without a file, and without variables that name settings, what the environment variables give is what is loaded,
whatever the texts and the other numbers are; but if the number of workers, the time for a connection, the limit of a
slow query or the time in the cache needs all the 64 bits that there are for it, nothing is loaded. -/
theorem load_lowest (henv : files.get? ".env" = none) (hfile : ∀ name ∈ fileNames v.environment, files.get? name = none)
    (hoverride : ∀ e ∈ v.entries, overridden? e.1 = none) :
    load v files =
      if (ofVariables v).server.workers.toNat < 2 ^ 63 ∧ (ofVariables v).database.connectTimeout.toNat < 2 ^ 63 ∧
          (ofVariables v).database.slowQuery.toNat < 2 ^ 63 ∧ (ofVariables v).cache.ttl.toNat < 2 ^ 63 then
        .ok (ofVariables v)
      else .error .oversized := by
  rw [← environment_ofVariables] at hfile
  rw [load, Variables.completed_of_none henv]
  split
  · next hfits => exact layered_of_words (ofVariables v) hfile hoverride ((words_ofVariables v).2 hfits)
  · next hlarge => exact layered_of_not_words (ofVariables v) (mt (words_ofVariables v).1 hlarge)

end

/-- The largest number of workers that is loaded, and the next one. -/
theorem load_lowest_workers : (Table.empty : Files).get? ".env" = none ∧
    (∀ e, ∀ name ∈ fileNames e, (Table.empty : Files).get? name = none) ∧
    (∃ v : Variables, (∀ e ∈ v.entries, overridden? e.1 = none) ∧ (ofVariables v).server.workers = 9223372036854775807 ∧
      load v .empty = .ok (ofVariables v)) ∧
    ∃ v : Variables, (∀ e ∈ v.entries, overridden? e.1 = none) ∧ (ofVariables v).server.workers = 9223372036854775808 ∧
      load v .empty = .error .oversized := by
  have hfiles : ∀ e, ∀ name ∈ fileNames e, (Table.empty : Files).get? name = none := fun _ _ _ => rfl
  refine ⟨rfl, hfiles, ?_, ?_⟩
  · let v : Variables := .ofList [("SERVER_WORKERS", "9223372036854775807"), ("LOG_LEVEL", "\x22\n")]
    have hoverride : ∀ e ∈ v.entries, overridden? e.1 = none := by decide +kernel
    refine ⟨v, hoverride, by decide +kernel, ?_⟩
    rw [load_lowest rfl (hfiles v.environment) hoverride]
    exact if_pos (by decide +kernel)
  · let v : Variables := .ofList [("SERVER_WORKERS", "9223372036854775808")]
    have hoverride : ∀ e ∈ v.entries, overridden? e.1 = none := by decide +kernel
    refine ⟨v, hoverride, by decide +kernel, ?_⟩
    rw [load_lowest rfl (hfiles v.environment) hoverride]
    exact if_neg (by decide +kernel)

end Bearer.Settings
