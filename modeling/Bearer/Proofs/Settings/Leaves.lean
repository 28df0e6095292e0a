import Bearer.Proofs.Settings.Merging
import Bearer.Settings.Document
import Mathlib.Algebra.Group.Int.Defs
import Mathlib.Algebra.Group.Nat.Defs
/-! The single settings, each at its path: what it is read from, how it is written, and where it stands among all
settings. Whatever is read from a layered document agrees with what is found at the paths, and a document that was
written has at the paths what the settings are. -/

namespace Bearer.Settings

open Value

/-- How a kind of setting is read and written. Of a table at most its keys count. -/
structure Kind (α : Type) where
  read : Value → Option α
  write : α → Json
  read_write : ∀ {a : α} {v : Value}, ofJson? (write a) = some v → read v = some a
  isTable_write : ∀ {a : α} {v : Value}, ofJson? (write a) = some v → v.isTable = false
  read_keys : ∀ {es es' : Entries}, es.map Prod.fst = es'.map Prod.fst → read (table es) = read (table es')

namespace Kind

/-- A number is layered as it is, if 63 bits are enough for it. -/
theorem eq_int_of_num {n : Numeral} {i : Int} (hn : n.toInt? = some i) {v : Value} (h : ofJson? (.num n) = some v) :
    v = int i ∧ -2 ^ 63 ≤ i ∧ i < 2 ^ 63 := by
  simp only [ofJson?, hn, Option.map_eq_some_iff] at h
  obtain ⟨m, hm, rfl⟩ := h
  obtain ⟨hm, hi⟩ := Option.filter_eq_some_iff.1 hm
  cases hm
  exact ⟨rfl, of_decide_eq_true hi⟩

def text : Kind String where
  read := text?
  write := .str
  read_write h := by cases h; rfl
  isTable_write h := by cases h; rfl
  read_keys _ := rfl

def flag : Kind Bool where
  read := flag?
  write := .bool
  read_write h := by cases h; rfl
  isTable_write h := by cases h; rfl
  read_keys _ := rfl

def optionalText : Kind (Option String) where
  read := format.nullable text?
  write
    | some s => .str s
    | none => .null
  read_write {a _} h := by cases a <;> cases h <;> rfl
  isTable_write {a _} h := by cases a <;> cases h <;> rfl
  read_keys _ := rfl

/-- A choice between names. -/
def choice {α : Type} (name : α → String) (ofName? : String → Option α) (h : ∀ a, ofName? (name a) = some a) :
    Kind α where
  read v := (caseName? v).bind ofName?
  write a := .str (name a)
  read_write {a _} hv := by
    cases hv
    exact h a
  isTable_write hv := by cases hv; rfl
  read_keys {es es'} hkeys := by
    rcases es with _ | ⟨⟨k, v⟩, _ | ⟨e, es⟩⟩ <;> rcases es' with _ | ⟨⟨k', v'⟩, _ | ⟨e', es'⟩⟩ <;>
      simp_all [caseName?]

/-- A number of so many bits without a sign. -/
def unsigned (bits : Nat) {α : Type} (ofNat : Nat → α) (toNat : α → Nat) (h : ∀ a, ofNat (toNat a % 2 ^ bits) = a) :
    Kind α where
  read v := (unsigned? bits v).map ofNat
  write a := .ofNat (toNat a)
  read_write {a v} hv := by
    obtain ⟨rfl, -, hlt⟩ := eq_int_of_num (Numeral.toInt?_ofNat (toNat a)) hv
    have hcount : Bits.count 64 = 2 ^ 64 := rfl
    rw [unsigned?, number?, if_pos ⟨by omega, by omega⟩]
    exact congrArg some (h a)
  isTable_write hv := by
    obtain ⟨rfl, -⟩ := eq_int_of_num (Numeral.toInt?_ofNat _) hv
    rfl
  read_keys _ := rfl

def word16 : Kind UInt16 := unsigned 16 Nat.toUInt16 UInt16.toNat (by simp)
def word32 : Kind UInt32 := unsigned 32 Nat.toUInt32 UInt32.toNat (by simp)
def word64 : Kind UInt64 := unsigned 64 Nat.toUInt64 UInt64.toNat (by simp)

def signed64 : Kind Int64 where
  read v := (signed? v).map Int64.ofInt
  write a := .ofInt a.toInt
  read_write {a v} hv := by
    obtain ⟨rfl, hle, hlt⟩ := eq_int_of_num (Numeral.toInt?_ofInt a.toInt) hv
    have hcount : Bits.count 63 = 2 ^ 63 := rfl
    have hleast : Bits.least 64 = -2 ^ 63 := rfl
    rw [signed?, number?, if_pos ⟨by omega, by omega⟩]
    exact congrArg some (Int64.ofInt_toInt a)
  isTable_write hv := by
    obtain ⟨rfl, -⟩ := eq_int_of_num (Numeral.toInt?_ofInt _) hv
    rfl
  read_keys _ := rfl

end Kind

/-- One field of `σ`: behind which keys it is found, and what it is. -/
structure Leaf (σ : Type) where
  path : List String
  Content : Type
  kind : Kind Content
  get : σ → Content

/-- A field of a part. -/
def Leaf.under {σ τ : Type} (name : String) (part : τ → σ) (ℓ : Leaf σ) : Leaf τ :=
  ⟨name :: ℓ.path, ℓ.Content, ℓ.kind, fun t => ℓ.get (part t)⟩

def Server.leaves : List (Leaf Server) :=
  [⟨["host"], _, .text, host⟩, ⟨["port"], _, .word16, port⟩, ⟨["workers"], _, .word64, workers⟩,
    ⟨["keep_alive"], _, .word64, keepAlive⟩, ⟨["max_payload_size"], _, .word64, maxPayload⟩]

def Database.leaves : List (Leaf Database) :=
  [⟨["url"], _, .text, url⟩, ⟨["max_connections"], _, .word32, maxConnections⟩,
    ⟨["min_connections"], _, .word32, minConnections⟩, ⟨["connect_timeout"], _, .word64, connectTimeout⟩,
    ⟨["idle_timeout"], _, .word64, idleTimeout⟩, ⟨["max_lifetime"], _, .word64, maxLifetime⟩,
    ⟨["slow_query_threshold"], _, .word64, slowQuery⟩]

def Jwt.leaves : List (Leaf Jwt) :=
  [⟨["secret"], _, .text, secret⟩, ⟨["access_token_expiry"], _, .signed64, accessExpiry⟩,
    ⟨["refresh_token_expiry"], _, .signed64, refreshExpiry⟩, ⟨["issuer"], _, .text, issuer⟩,
    ⟨["algorithm"], _, .text, algorithm⟩, ⟨["refresh_token_bytes"], _, .word64, refreshBytes⟩]

def Cache.leaves : List (Leaf Cache) :=
  [⟨["url"], _, .text, url⟩, ⟨["max_retries"], _, .word32, maxRetries⟩, ⟨["retry_delay_ms"], _, .word64, retryDelay⟩,
    ⟨["default_ttl"], _, .word64, ttl⟩, ⟨["key_prefix"], _, .optionalText, keyName⟩]

def Backend.kind : Kind Backend := .choice name ofName? ofName?_name

def Storage.leaves : List (Leaf Storage) :=
  [⟨["refresh_tokens"], _, Backend.kind, refreshTokens⟩, ⟨["identities"], _, Backend.kind, identities⟩,
    ⟨["cache"], _, Backend.kind, cache⟩]

def Logging.leaves : List (Leaf Logging) :=
  [⟨["level"], _, .text, level⟩,
    ⟨["format"], _, .choice LogFormat.name LogFormat.ofName? LogFormat.ofName?_name, format⟩,
    ⟨["colored"], _, .flag, colored⟩, ⟨["source_location"], _, .flag, sourceLocation⟩]

def Environment.leaf : Leaf Settings :=
  ⟨["environment"], _, .choice name ofName? ofName?_name, environment⟩

/-- All settings. -/
def leaves : List (Leaf Settings) :=
  Environment.leaf ::
    (Server.leaves.map (.under "server" server) ++ Database.leaves.map (.under "database" database) ++
      (Jwt.leaves.map (.under "jwt" id)).map (.under "auth" jwt) ++ Cache.leaves.map (.under "cache" cache) ++
      Storage.leaves.map (.under "storage" storage) ++ Logging.leaves.map (.under "logging" logging))

/-- No two settings differ that have the same leaves. -/
theorem eq_of_leaves {s s' : Settings} (h : ∀ ℓ ∈ leaves, ℓ.get s = ℓ.get s') : s = s' := by
  rcases s with ⟨_, ⟨⟩, ⟨⟩, ⟨⟩, ⟨⟩, ⟨⟩, ⟨⟩⟩
  rcases s' with ⟨_, ⟨⟩, ⟨⟩, ⟨⟩, ⟨⟩, ⟨⟩, ⟨⟩⟩
  simpa [leaves, Server.leaves, Database.leaves, Jwt.leaves, Cache.leaves, Storage.leaves, Logging.leaves,
    Environment.leaf, Leaf.under, and_assoc] using h

/-! Written settings. -/

/-- A document has something behind some keys, and no key twice on the way. -/
def LeadsTo : List String → Json → Json → Prop
  | [], j, i => j = i
  | k :: ks, j, i => ∃ ms x, j = .obj ms ∧ (ms.map Prod.fst).Nodup ∧ Pairs.at? k ms = some x ∧ LeadsTo ks x i

theorem keys_ofMembers {ms : List (String × Json)} {es : Entries} (h : ofMembers? ms = some es) :
    es.map Prod.fst = ms.map Prod.fst := by
  induction ms generalizing es with
  | nil => cases h; rfl
  | cons m ms ih =>
    simp only [ofMembers?, Option.bind_eq_bind, Option.bind_eq_some_iff, Option.some.injEq] at h
    obtain ⟨v, -, vs, hvs, rfl⟩ := h
    rw [List.map_cons, ih hvs, List.map_cons]

theorem at?_ofMembers {ms : List (String × Json)} {es : Entries} (h : ofMembers? ms = some es) {k : String} {x : Json}
    (hx : Pairs.at? k ms = some x) : ∃ v, Pairs.at? k es = some v ∧ ofJson? x = some v := by
  induction ms generalizing es with
  | nil => cases hx
  | cons m ms ih =>
    obtain ⟨a, y⟩ := m
    simp only [ofMembers?, Option.bind_eq_bind, Option.bind_eq_some_iff, Option.some.injEq] at h
    obtain ⟨v, hv, vs, hvs, rfl⟩ := h
    by_cases ha : a = k
    · rw [Pairs.at?, if_pos ha, Option.some.injEq] at hx
      exact ⟨v, by rw [Pairs.at?, if_pos ha], hx ▸ hv⟩
    · rw [Pairs.at?, if_neg ha] at hx
      rw [Pairs.at?, if_neg ha]
      exact ih hvs hx

/-- A document and its layer lead to the same things. -/
theorem at?_ofJson {ks : List String} {j i : Json} (h : LeadsTo ks j i) {v : Value} (hv : ofJson? j = some v) :
    Leads ks v ∧ ∃ w, at? ks v = some w ∧ ofJson? i = some w := by
  induction ks generalizing j v with
  | nil =>
    cases h
    exact ⟨trivial, v, rfl, hv⟩
  | cons k ks ih =>
    obtain ⟨ms, x, rfl, hms, hx, hnext⟩ := h
    obtain ⟨es, hes, rfl⟩ := Option.map_eq_some_iff.1 hv
    obtain ⟨y, hy, hxy⟩ := at?_ofMembers hes hx
    obtain ⟨hleads, w, hw, hiw⟩ := ih hnext hxy
    refine ⟨⟨es, rfl, keys_ofMembers hes ▸ hms, fun z hz => ?_⟩, w, ?_, hiw⟩
    · rw [hy] at hz
      cases hz
      exact hleads
    · show (Pairs.at? k es).bind (at? ks) = some w
      rw [hy, Option.bind_some, hw]

theorem leadsTo_toJson (s : Settings) : ∀ ℓ ∈ leaves, LeadsTo ℓ.path s.toJson (ℓ.kind.write (ℓ.get s)) := by
  rcases s with ⟨_, _, _, _, ⟨_, _, _, _, _ | _⟩, _, _⟩ <;>
  simp [leaves, Server.leaves, Database.leaves, Jwt.leaves, Cache.leaves, Storage.leaves, Logging.leaves,
    Environment.leaf, Leaf.under, LeadsTo, toJson, Server.toJson, Database.toJson, authJson, Jwt.toJson, Cache.toJson,
    Storage.toJson, Logging.toJson, Pairs.at?, Kind.text, Kind.flag, Kind.optionalText, Kind.choice, Kind.unsigned,
    Kind.word16, Kind.word32, Kind.word64, Kind.signed64, Backend.kind]

/-! Settings that were read. -/

/-- What is read of a layer agrees with what some leaves are found to be. -/
def Reads {σ : Type} (read : Value → Option σ) (ls : List (Leaf σ)) : Prop :=
  ∀ {v : Value} {s : σ}, read v = some s → ∀ ℓ ∈ ls, ∀ x, at? ℓ.path v = some x → ℓ.kind.read x = some (ℓ.get s)

/-- If there is something under a key of a record, then it reads so. -/
def Given {α : Type} (r : Entries) (k : String) (read : Value → Option α) (a : α) : Prop :=
  ∀ v, r.lookup k = some v → read v = some a

section

variable {α β σ : Type} {names : List String} {r : Entries} {k : String} {read : Value → Option α} {a default : α}
  {v : Value}

theorem given_of_required (h : Format.required r k read = some a) : Given r k read a := by
  intro v hv
  rwa [Format.required, hv] at h

theorem given_of_defaulted (h : Format.defaulted r k default read = some a) : Given r k read a := by
  intro v hv
  rwa [Format.defaulted, hv] at h

/-- What is found behind a key belongs to what was read there. -/
theorem Given.part (h : Given r k read a) (hr : record? names v = some r) {ks : List String} {x : Value}
    (hx : at? (k :: ks) v = some x) : ∃ w, read w = some a ∧ at? ks w = some x := by
  cases v with
  | table es =>
    obtain rfl : es = r := Option.some.inj hr
    obtain ⟨w, hw, hx⟩ := Option.bind_eq_some_iff.1 hx
    exact ⟨w, h w ((Pairs.lookup_eq_at? k es).trans hw), hx⟩
  | _ => cases hx

theorem Given.leaf (h : Given r k read a) (hr : record? names v = some r) (x : Value) (hx : at? [k] v = some x) :
    read x = some a := by
  obtain ⟨w, hw, hx⟩ := h.part hr hx
  cases hx
  exact hw

theorem Given.number (h : Given r k read a) (hr : record? names v = some r) (f : α → β) (x : Value)
    (hx : at? [k] v = some x) : (read x).map f = some (f a) :=
  congrArg (Option.map f) (h.leaf hr x hx)

theorem Given.under {part : σ → α} {s : σ} (h : Given r k read (part s)) (hr : record? names v = some r)
    {ls : List (Leaf α)} (hreads : Reads read ls) :
    ∀ ℓ ∈ ls.map (Leaf.under k part), ∀ x, at? ℓ.path v = some x → ℓ.kind.read x = some (ℓ.get s) := by
  intro ℓ hℓ x hx
  obtain ⟨inner, hinner, rfl⟩ := List.mem_map.1 hℓ
  obtain ⟨w, hw, hx⟩ := h.part hr hx
  exact hreads hw inner hinner x hx

end

theorem Server.reads : Reads (Server.read? format) leaves := by
  intro v s h
  simp only [read?, Option.bind_eq_bind, Option.bind_eq_some_iff, Option.some.injEq] at h
  obtain ⟨r, hr, host, hhost, port, hport, workers, hworkers, keepAlive, hkeepAlive, maxPayload, hmaxPayload, rfl⟩ := h
  simp only [leaves, List.forall_mem_cons]
  exact ⟨(given_of_required hhost).leaf hr, (given_of_required hport).number hr _,
    (given_of_defaulted hworkers).number hr _, (given_of_defaulted hkeepAlive).number hr _,
    (given_of_defaulted hmaxPayload).number hr _, List.forall_mem_nil _⟩

theorem Database.reads : Reads (Database.read? format) leaves := by
  intro v s h
  simp only [read?, Option.bind_eq_bind, Option.bind_eq_some_iff, Option.some.injEq] at h
  obtain ⟨r, hr, url, hurl, most, hmost, least, hleast, connect, hconnect, idle, hidle, life, hlife, slow, hslow, rfl⟩ := h
  simp only [leaves, List.forall_mem_cons]
  exact ⟨(given_of_required hurl).leaf hr, (given_of_required hmost).number hr _,
    (given_of_defaulted hleast).number hr _, (given_of_required hconnect).number hr _,
    (given_of_required hidle).number hr _, (given_of_required hlife).number hr _,
    (given_of_defaulted hslow).number hr _, List.forall_mem_nil _⟩

theorem Jwt.reads : Reads (Jwt.read? format) leaves := by
  intro v s h
  simp only [read?, Option.bind_eq_bind, Option.bind_eq_some_iff, Option.some.injEq] at h
  obtain ⟨r, hr, secret, hsecret, access, haccess, refresh, hrefresh, issuer, hissuer, algorithm, halgorithm, bytes,
    hbytes, rfl⟩ := h
  simp only [leaves, List.forall_mem_cons]
  exact ⟨(given_of_required hsecret).leaf hr, (given_of_required haccess).number hr _,
    (given_of_required hrefresh).number hr _, (given_of_required hissuer).leaf hr,
    (given_of_defaulted halgorithm).leaf hr, (given_of_defaulted hbytes).number hr _, List.forall_mem_nil _⟩

theorem reads_auth : Reads (readAuth? format) (Jwt.leaves.map (.under "jwt" id)) := by
  intro v j h
  simp only [readAuth?, Option.bind_eq_bind, Option.bind_eq_some_iff] at h
  obtain ⟨r, hr, hjwt⟩ := h
  exact (given_of_required hjwt).under hr Jwt.reads

theorem Cache.reads : Reads (Cache.read? format) leaves := by
  intro v s h
  simp only [read?, Option.bind_eq_bind, Option.bind_eq_some_iff, Option.some.injEq] at h
  obtain ⟨r, hr, url, hurl, retries, hretries, delay, hdelay, ttl, httl, name, hname, rfl⟩ := h
  simp only [leaves, List.forall_mem_cons]
  exact ⟨(given_of_required hurl).leaf hr, (given_of_defaulted hretries).number hr _,
    (given_of_defaulted hdelay).number hr _, (given_of_defaulted httl).number hr _,
    (given_of_defaulted hname).leaf hr, List.forall_mem_nil _⟩

theorem Storage.reads : Reads (Storage.read? format) leaves := by
  intro v s h
  simp only [read?, Option.bind_eq_bind, Option.bind_eq_some_iff, Option.some.injEq] at h
  obtain ⟨r, hr, tokens, htokens, identities, hidentities, cache, hcache, rfl⟩ := h
  simp only [leaves, List.forall_mem_cons]
  exact ⟨(given_of_required htokens).leaf hr, (given_of_required hidentities).leaf hr,
    (given_of_required hcache).leaf hr, List.forall_mem_nil _⟩

theorem Logging.reads : Reads (Logging.read? Value.format) leaves := by
  intro v s h
  simp only [read?, Option.bind_eq_bind, Option.bind_eq_some_iff, Option.some.injEq] at h
  obtain ⟨r, hr, level, hlevel, form, hform, colored, hcolored, location, hlocation, rfl⟩ := h
  simp only [leaves, List.forall_mem_cons]
  exact ⟨(given_of_required hlevel).leaf hr, (given_of_defaulted hform).leaf hr, (given_of_defaulted hcolored).leaf hr,
    (given_of_defaulted hlocation).leaf hr, List.forall_mem_nil _⟩

/-- Every setting is what its leaf is found to be. -/
theorem reads : Reads (read? format) leaves := by
  intro v s h
  simp only [read?, Option.bind_eq_bind, Option.bind_eq_some_iff, Option.some.injEq] at h
  obtain ⟨r, hr, environment, henvironment, server, hserver, database, hdatabase, jwt, hjwt, cache, hcache, storage,
    hstorage, logging, hlogging, rfl⟩ := h
  simp only [leaves, List.forall_mem_cons, List.forall_mem_append, and_assoc]
  exact ⟨(given_of_required henvironment).leaf hr, (given_of_required hserver).under hr Server.reads,
    (given_of_required hdatabase).under hr Database.reads, (given_of_required hjwt).under hr reads_auth,
    (given_of_required hcache).under hr Cache.reads, (given_of_defaulted hstorage).under hr Storage.reads,
    (given_of_defaulted hlogging).under hr Logging.reads⟩

end Bearer.Settings
