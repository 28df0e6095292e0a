import Bearer.Settings.Document
import Bearer.Store.Table
/-! Settings as they are written, and what a notation must do for them to be read as they were. It gives back the texts,
flags and numbers that stand in a document, and the parts of a record under their names; then every section is read back
from its own document, and so are all settings, whatever stands in them. -/

namespace Bearer

/-- A document without arrays and fractions that has no key twice in any object. -/
inductive Json.Orderly : Json → Prop
  | null : Orderly null
  | bool (b : Bool) : Orderly (bool b)
  | str (s : String) : Orderly (str s)
  | nat (n : Nat) : Orderly (ofNat n)
  | int (i : Int) : Orderly (ofInt i)
  | obj {members : List (String × Json)} (keys : (members.map Prod.fst).Nodup) (parts : ∀ m ∈ members, m.2.Orderly) :
      Orderly (obj members)

namespace Settings

open Json (Orderly)

theorem Server.orderly_toJson (s : Server) : s.toJson.Orderly := by
  apply Orderly.obj
  · simp
  · simp only [List.forall_mem_cons]
    exact ⟨.str _, .nat _, .nat _, .nat _, .nat _, List.forall_mem_nil _⟩

theorem Database.orderly_toJson (d : Database) : d.toJson.Orderly := by
  apply Orderly.obj
  · simp
  · simp only [List.forall_mem_cons]
    exact ⟨.str _, .nat _, .nat _, .nat _, .nat _, .nat _, .nat _, List.forall_mem_nil _⟩

theorem Jwt.orderly_toJson (j : Jwt) : j.toJson.Orderly := by
  apply Orderly.obj
  · simp
  · simp only [List.forall_mem_cons]
    exact ⟨.str _, .int _, .int _, .str _, .str _, .nat _, List.forall_mem_nil _⟩

theorem Cache.orderly_toJson (c : Cache) : c.toJson.Orderly := by
  apply Orderly.obj
  · simp
  · simp only [List.forall_mem_cons]
    refine ⟨.str _, .nat _, .nat _, .nat _, ?_, List.forall_mem_nil _⟩
    cases c.keyName with
    | none => exact .null
    | some s => exact .str s

theorem Storage.orderly_toJson (s : Storage) : s.toJson.Orderly := by
  apply Orderly.obj
  · simp
  · simp only [List.forall_mem_cons]
    exact ⟨.str _, .str _, .str _, List.forall_mem_nil _⟩

theorem Logging.orderly_toJson (l : Logging) : l.toJson.Orderly := by
  apply Orderly.obj
  · simp
  · simp only [List.forall_mem_cons]
    exact ⟨.str _, .str _, .bool _, .bool _, List.forall_mem_nil _⟩

theorem orderly_authJson (j : Jwt) : (authJson j).Orderly := by
  apply Orderly.obj
  · simp
  · simp only [List.forall_mem_cons]
    exact ⟨j.orderly_toJson, List.forall_mem_nil _⟩

theorem orderly_toJson (s : Settings) : s.toJson.Orderly := by
  apply Orderly.obj
  · simp
  · simp only [List.forall_mem_cons]
    exact ⟨.str _, s.server.orderly_toJson, s.database.orderly_toJson, orderly_authJson s.jwt,
      s.cache.orderly_toJson, s.storage.orderly_toJson, s.logging.orderly_toJson, List.forall_mem_nil _⟩

/-! Reading back. -/

/-- The parts of a record stand for the members of a written one. -/
def Held {δ : Type} (stands : Json → δ → Prop) (members : List (String × Json)) (fields : List (String × δ)) : Prop :=
  ∀ k j, Pairs.at? k members = some j → ∃ d, fields.lookup k = some d ∧ stands j d

/-- A notation in which what stands for a written document is read as what was written. -/
structure Format.Faithful {δ : Type} (f : Format δ) (stands : Json → δ → Prop) : Prop where
  text : ∀ {s : String} {d : δ}, stands (.str s) d → f.text? d = some s
  flag : ∀ {b : Bool} {d : δ}, stands (.bool b) d → f.flag? d = some b
  unsigned : ∀ {bits n : Nat} {d : δ}, n < Bits.count bits → stands (.ofNat n) d → f.unsigned? bits d = some n
  signed : ∀ {i : Int} {d : δ}, Bits.isSigned 64 i = true → stands (.ofInt i) d → f.signed? d = some i
  caseName : ∀ {s : String} {d : δ}, stands (.str s) d → f.caseName? d = some s
  absent : ∀ {d : δ}, stands .null d → f.isAbsent d = true
  present : ∀ {s : String} {d : δ}, stands (.str s) d → f.isAbsent d = false
  record : ∀ (names : List String) {members : List (String × Json)} {d : δ}, names.Nodup →
    members.map Prod.fst = names → stands (.obj members) d →
    ∃ fields, f.record? names d = some fields ∧ Held stands members fields

section

variable {δ α : Type} {f : Format δ} {stands : Json → δ → Prop} {members : List (String × Json)}
  {fields : List (String × δ)} {k : String} {j : Json} {read : δ → Option α} {a default : α}

theorem Held.required (h : Held stands members fields) (hk : Pairs.at? k members = some j)
    (hread : ∀ {d}, stands j d → read d = some a) : Format.required fields k read = some a := by
  obtain ⟨d, hd, hstands⟩ := h k j hk
  rw [Format.required, hd, Option.bind_some, hread hstands]

theorem Held.defaulted (h : Held stands members fields) (hk : Pairs.at? k members = some j)
    (hread : ∀ {d}, stands j d → read d = some a) : Format.defaulted fields k default read = some a := by
  obtain ⟨d, hd, hstands⟩ := h k j hk
  rw [Format.defaulted, hd]
  exact hread hstands

namespace Format.Faithful

variable (hf : f.Faithful stands) {d : δ}

include hf

theorem word16 (n : UInt16) (h : stands (.ofNat n.toNat) d) : f.unsigned? 16 d = some n.toNat :=
  hf.unsigned n.toNat_lt h

theorem word32 (n : UInt32) (h : stands (.ofNat n.toNat) d) : f.unsigned? 32 d = some n.toNat :=
  hf.unsigned n.toNat_lt h

theorem word64 (n : UInt64) (h : stands (.ofNat n.toNat) d) : f.unsigned? 64 d = some n.toNat :=
  hf.unsigned n.toNat_lt h

theorem signed64 (n : Int64) (h : stands (.ofInt n.toInt) d) : f.signed? d = some n.toInt :=
  hf.signed (decide_eq_true ⟨n.le_toInt, n.toInt_lt⟩) h

/-- A choice between names. -/
theorem choice {name : α → String} {ofName? : String → Option α} (hname : ∀ a, ofName? (name a) = some a) (a : α)
    (h : stands (.str (name a)) d) : (f.caseName? d).bind ofName? = some a := by
  rw [hf.caseName h, Option.bind_some, hname]

end Format.Faithful

end

section

variable {δ : Type} {f : Format δ} {stands : Json → δ → Prop} (hf : f.Faithful stands) {d : δ}

include hf

theorem Server.read?_of_stands {s : Server} (h : stands s.toJson d) : read? f d = some s := by
  obtain ⟨r, hr, held⟩ :=
    hf.record ["host", "port", "workers", "keep_alive", "max_payload_size"] (by decide) rfl h
  have hhost : Format.required r "host" f.text? = some s.host := held.required rfl hf.text
  have hport : Format.required r "port" (f.unsigned? 16) = some s.port.toNat := held.required rfl (hf.word16 _)
  have hworkers : Format.defaulted r "workers" 0 (f.unsigned? 64) = some s.workers.toNat :=
    held.defaulted rfl (hf.word64 _)
  have hkeepAlive : Format.defaulted r "keep_alive" 30 (f.unsigned? 64) = some s.keepAlive.toNat :=
    held.defaulted rfl (hf.word64 _)
  have hmaxPayload : Format.defaulted r "max_payload_size" 16384 (f.unsigned? 64) = some s.maxPayload.toNat :=
    held.defaulted rfl (hf.word64 _)
  simp [read?, hr, hhost, hport, hworkers, hkeepAlive, hmaxPayload]

theorem Database.read?_of_stands {s : Database} (h : stands s.toJson d) : read? f d = some s := by
  obtain ⟨r, hr, held⟩ := hf.record ["url", "max_connections", "min_connections", "connect_timeout", "idle_timeout",
    "max_lifetime", "slow_query_threshold"] (by decide) rfl h
  have hurl : Format.required r "url" f.text? = some s.url := held.required rfl hf.text
  have hmost : Format.required r "max_connections" (f.unsigned? 32) = some s.maxConnections.toNat :=
    held.required rfl (hf.word32 _)
  have hleast : Format.defaulted r "min_connections" 1 (f.unsigned? 32) = some s.minConnections.toNat :=
    held.defaulted rfl (hf.word32 _)
  have hconnect : Format.required r "connect_timeout" (f.unsigned? 64) = some s.connectTimeout.toNat :=
    held.required rfl (hf.word64 _)
  have hidle : Format.required r "idle_timeout" (f.unsigned? 64) = some s.idleTimeout.toNat :=
    held.required rfl (hf.word64 _)
  have hlife : Format.required r "max_lifetime" (f.unsigned? 64) = some s.maxLifetime.toNat :=
    held.required rfl (hf.word64 _)
  have hslow : Format.defaulted r "slow_query_threshold" 250 (f.unsigned? 64) = some s.slowQuery.toNat :=
    held.defaulted rfl (hf.word64 _)
  simp [read?, hr, hurl, hmost, hleast, hconnect, hidle, hlife, hslow]

theorem Jwt.read?_of_stands {s : Jwt} (h : stands s.toJson d) : read? f d = some s := by
  obtain ⟨r, hr, held⟩ := hf.record ["secret", "access_token_expiry", "refresh_token_expiry", "issuer", "algorithm",
    "refresh_token_bytes"] (by decide) rfl h
  have hsecret : Format.required r "secret" f.text? = some s.secret := held.required rfl hf.text
  have haccess : Format.required r "access_token_expiry" f.signed? = some s.accessExpiry.toInt :=
    held.required rfl (hf.signed64 _)
  have hrefresh : Format.required r "refresh_token_expiry" f.signed? = some s.refreshExpiry.toInt :=
    held.required rfl (hf.signed64 _)
  have hissuer : Format.required r "issuer" f.text? = some s.issuer := held.required rfl hf.text
  have halgorithm : Format.defaulted r "algorithm" "HS256" f.text? = some s.algorithm := held.defaulted rfl hf.text
  have hbytes : Format.defaulted r "refresh_token_bytes" 64 (f.unsigned? 64) = some s.refreshBytes.toNat :=
    held.defaulted rfl (hf.word64 _)
  simp [read?, hr, hsecret, haccess, hrefresh, hissuer, halgorithm, hbytes]

theorem readAuth?_of_stands {s : Jwt} (h : stands (authJson s) d) : readAuth? f d = some s := by
  obtain ⟨r, hr, held⟩ := hf.record ["jwt"] (by decide) rfl h
  have hjwt : Format.required r "jwt" (Jwt.read? f) = some s := held.required rfl (Jwt.read?_of_stands hf)
  simp [readAuth?, hr, hjwt]

theorem Cache.read?_of_stands {s : Cache} (h : stands s.toJson d) : read? f d = some s := by
  obtain ⟨r, hr, held⟩ :=
    hf.record ["url", "max_retries", "retry_delay_ms", "default_ttl", "key_prefix"] (by decide) rfl h
  have hurl : Format.required r "url" f.text? = some s.url := held.required rfl hf.text
  have hretries : Format.defaulted r "max_retries" 3 (f.unsigned? 32) = some s.maxRetries.toNat :=
    held.defaulted rfl (hf.word32 _)
  have hdelay : Format.defaulted r "retry_delay_ms" 100 (f.unsigned? 64) = some s.retryDelay.toNat :=
    held.defaulted rfl (hf.word64 _)
  have httl : Format.defaulted r "default_ttl" 300 (f.unsigned? 64) = some s.ttl.toNat :=
    held.defaulted rfl (hf.word64 _)
  have hname : Format.defaulted r "key_prefix" none (f.nullable f.text?) = some s.keyName := by
    apply held.defaulted rfl
    intro x hx
    unfold Format.nullable
    cases hname : s.keyName with
    | none =>
      rw [hname] at hx
      rw [hf.absent hx]
      rfl
    | some name =>
      rw [hname] at hx
      rw [hf.present hx, hf.text hx]
      rfl
  simp [read?, hr, hurl, hretries, hdelay, httl, hname]

theorem Storage.read?_of_stands {s : Storage} (h : stands s.toJson d) : read? f d = some s := by
  obtain ⟨r, hr, held⟩ := hf.record ["refresh_tokens", "identities", "cache"] (by decide) rfl h
  have htokens : Format.required r "refresh_tokens" (Backend.read? f) = some s.refreshTokens :=
    held.required rfl (hf.choice Backend.ofName?_name _)
  have hidentities : Format.required r "identities" (Backend.read? f) = some s.identities :=
    held.required rfl (hf.choice Backend.ofName?_name _)
  have hcache : Format.required r "cache" (Backend.read? f) = some s.cache :=
    held.required rfl (hf.choice Backend.ofName?_name _)
  simp [read?, hr, htokens, hidentities, hcache]

theorem Logging.read?_of_stands {s : Logging} (h : stands s.toJson d) : read? f d = some s := by
  obtain ⟨r, hr, held⟩ := hf.record ["level", "format", "colored", "source_location"] (by decide) rfl h
  have hlevel : Format.required r "level" f.text? = some s.level := held.required rfl hf.text
  have hformat : Format.defaulted r "format" .json (fun d => (f.caseName? d).bind LogFormat.ofName?) = some s.format :=
    held.defaulted rfl (hf.choice LogFormat.ofName?_name _)
  have hcolored : Format.defaulted r "colored" false f.flag? = some s.colored := held.defaulted rfl hf.flag
  have hlocation : Format.defaulted r "source_location" false f.flag? = some s.sourceLocation :=
    held.defaulted rfl hf.flag
  simp [read?, hr, hlevel, hformat, hcolored, hlocation]

/-- In a faithful notation settings are read from what stands for their document. -/
theorem read?_of_stands {s : Settings} (h : stands s.toJson d) : read? f d = some s := by
  obtain ⟨r, hr, held⟩ := hf.record ["environment", "server", "database", "auth", "cache", "storage", "logging"]
    (by decide) rfl h
  have henvironment : Format.required r "environment" (Environment.read? f) = some s.environment :=
    held.required rfl (hf.choice Environment.ofName?_name _)
  have hserver : Format.required r "server" (Server.read? f) = some s.server :=
    held.required rfl (Server.read?_of_stands hf)
  have hdatabase : Format.required r "database" (Database.read? f) = some s.database :=
    held.required rfl (Database.read?_of_stands hf)
  have hjwt : Format.required r "auth" (readAuth? f) = some s.jwt := held.required rfl (readAuth?_of_stands hf)
  have hcache : Format.required r "cache" (Cache.read? f) = some s.cache :=
    held.required rfl (Cache.read?_of_stands hf)
  have hstorage : Format.defaulted r "storage" .inMemory (Storage.read? f) = some s.storage :=
    held.defaulted rfl (Storage.read?_of_stands hf)
  have hlogging : Format.defaulted r "logging" (.preset .development) (Logging.read? f) = some s.logging :=
    held.defaulted rfl (Logging.read?_of_stands hf)
  simp [read?, hr, henvironment, hserver, hdatabase, hjwt, hcache, hstorage, hlogging]

end

end Settings

end Bearer
