import Bearer.Redis.Address
import Bearer.Settings.Database
/-! What a log shows of the password in the URL of a server. Both ways of masking a URL end the credentials at the
first at sign, while a reader of URLs ends them at the last. So a password without an at sign is not shown at all,
and of any other the text behind its first at sign is shown. -/

namespace Bearer

namespace Text

theorem afterFront?_self (front rest : List Char) : afterFront? front (front ++ rest) = some rest := by
  induction front with
  | nil => unfold afterFront?; rfl
  | cons f fs ih => rw [List.cons_append, afterFront?, if_pos rfl, ih]

/-- A mark is not found before its first character. -/
theorem splitFirst?_of_notMem {m : Char} {ms before : List Char} (rest : List Char) (h : m ∉ before) :
    splitFirst? (m :: ms) (before ++ (m :: ms) ++ rest) = some (before, rest) := by
  induction before with
  | nil =>
    have hfront := afterFront?_self (m :: ms) rest
    rw [List.nil_append, List.cons_append] at *
    rw [splitFirst?, hfront]
  | cons c cs ih =>
    obtain ⟨hc, hcs⟩ := not_or.1 (mt List.mem_cons.2 h)
    rw [List.append_assoc] at ih ⊢
    rw [List.cons_append, splitFirst?, afterFront?, if_neg hc, ih hcs]
    rfl

theorem splitFirst?_eq_none {c : Char} {s : List Char} : splitFirst? [c] s = none ↔ c ∉ s := by
  induction s with
  | nil => simp [splitFirst?]
  | cons d s ih =>
    by_cases hd : c = d
    · simp [splitFirst?, afterFront?, hd]
    · simp [splitFirst?, afterFront?, hd, ih]

theorem notMem_of_splitFirst? {c : Char} {s before after : List Char}
    (h : splitFirst? [c] s = some (before, after)) : c ∉ before := by
  induction s generalizing before with
  | nil => simp [splitFirst?] at h
  | cons d s ih =>
    by_cases hd : c = d
    · simp only [splitFirst?, afterFront?, if_pos hd, Option.some.injEq, Prod.mk.injEq] at h
      simp [← h.1]
    · simp only [splitFirst?, afterFront?, if_neg hd, Option.map_eq_some_iff] at h
      obtain ⟨⟨b, a⟩, hb, heq⟩ := h
      cases heq
      simp [hd, ih hb]

end Text

/-- A URL with credentials. -/
def urlOf (scheme user password host : List Char) : String :=
  String.ofList (scheme ++ "://".toList ++ (user ++ ':' :: password ++ '@' :: host))

/-- What stands behind the first at sign of a password. -/
def behindAt? (password : List Char) : Option (List Char) := (Text.splitFirst? ['@'] password).map Prod.snd

/-- What stands behind the first at sign of a password with a host behind it. -/
def shown (password host : List Char) : List Char :=
  match behindAt? password with
  | some rest => rest ++ '@' :: host
  | none => host

theorem shown_inj {p q host : List Char} : shown p host = shown q host ↔ behindAt? p = behindAt? q := by
  refine ⟨fun h => ?_, fun h => by rw [shown, shown, h]⟩
  have hlength (rest : List Char) : rest ++ '@' :: host ≠ host := fun e => by
    have := congrArg List.length e
    simp at this
    omega
  unfold shown at h
  cases hp : behindAt? p with
  | none =>
    cases hq : behindAt? q with
    | none => rfl
    | some b => exact absurd (by simpa [hp, hq] using h.symm) (hlength b)
  | some a =>
    cases hq : behindAt? q with
    | none => exact absurd (by simpa [hp, hq] using h) (hlength a)
    | some b => simpa [hp, hq] using h

/-- The first at sign behind a text without one. -/
theorem splitFirst?_credentials {front : List Char} (hfront : '@' ∉ front) (password host : List Char) :
    ∃ before, Text.splitFirst? ['@'] (front ++ password ++ '@' :: host) =
      some (front ++ before, shown password host) := by
  unfold shown behindAt?
  cases h : Text.splitFirst? ['@'] password with
  | none =>
    have hmem : '@' ∉ front ++ password := by simp [hfront, Text.splitFirst?_eq_none.1 h]
    have hsplit : Text.splitFirst? ['@'] (front ++ password ++ ['@'] ++ host) = some (front ++ password, host) :=
      Text.splitFirst?_of_notMem host hmem
    exact ⟨password, by simpa using hsplit⟩
  | some x =>
    obtain ⟨before, rest⟩ := x
    have hmem : '@' ∉ front ++ before := by simp [hfront, Text.notMem_of_splitFirst? h]
    obtain rfl := Text.splitFirst?_eq_some h
    have hsplit : Text.splitFirst? ['@'] (front ++ before ++ ['@'] ++ (rest ++ '@' :: host)) =
        some (front ++ before, rest ++ '@' :: host) := Text.splitFirst?_of_notMem _ hmem
    exact ⟨before, by simpa using hsplit⟩

theorem splitFirst?_scheme {scheme : List Char} (hscheme : ':' ∉ scheme) (rest : List Char) :
    Text.splitFirst? "://".toList (scheme ++ "://".toList ++ rest) = some (scheme, rest) :=
  Text.splitFirst?_of_notMem rest hscheme

section

variable {scheme user : List Char} (password host : List Char)

theorem Redis.maskedUrl_urlOf (hscheme : ':' ∉ scheme ∧ '@' ∉ scheme) (huser : '@' ∉ user) :
    Redis.maskedUrl (urlOf scheme user password host) =
      String.ofList (scheme ++ "://".toList ++ "****@".toList ++ shown password host) := by
  have hfront : '@' ∉ scheme ++ "://".toList ++ user ++ [':'] := by simp [hscheme.2, huser]
  obtain ⟨before, hat⟩ := splitFirst?_credentials hfront password host
  have htext : scheme ++ "://".toList ++ user ++ [':'] ++ password ++ '@' :: host =
      scheme ++ "://".toList ++ (user ++ ':' :: password ++ '@' :: host) := by simp
  rw [htext] at hat
  rw [maskedUrl, urlOf, String.toList_ofList, hat, splitFirst?_scheme hscheme.1]

theorem Settings.Database.redactedUrl_urlOf (d : Settings.Database) (hscheme : ':' ∉ scheme)
    (huser : ':' ∉ user ∧ '@' ∉ user) :
    ({ d with url := urlOf scheme user password host } : Settings.Database).redactedUrl =
      String.ofList (scheme ++ "://".toList ++ user ++ ":***@".toList ++ shown password host) := by
  have hfront : '@' ∉ user ++ [':'] := by simp [huser.2]
  obtain ⟨before, hat⟩ := splitFirst?_credentials hfront password host
  have htext : user ++ [':'] ++ password ++ '@' :: host = user ++ ':' :: password ++ '@' :: host := by simp
  have huntil : (user ++ [':'] ++ before).takeWhile (· ≠ ':') = user := by
    rw [List.append_assoc, List.takeWhile_append_of_pos]
    · simp
    · intro c hc
      have hne : c ≠ ':' := fun e => huser.1 (e ▸ hc)
      simpa using hne
  rw [htext] at hat
  simp only [redactedUrl, urlOf, String.toList_ofList, splitFirst?_scheme hscheme, hat, huntil]

end

/-- Two URLs that differ in the password alone look the same in the log exactly if both passwords have the same text
behind their first at sign, or both have no at sign. -/
theorem masked_eq_iff {scheme user : List Char} (hscheme : ':' ∉ scheme ∧ '@' ∉ scheme)
    (huser : ':' ∉ user ∧ '@' ∉ user) (host p q : List Char) (d : Settings.Database) :
    (Redis.maskedUrl (urlOf scheme user p host) = Redis.maskedUrl (urlOf scheme user q host) ↔
      behindAt? p = behindAt? q) ∧
    (({ d with url := urlOf scheme user p host } : Settings.Database).redactedUrl =
        ({ d with url := urlOf scheme user q host } : Settings.Database).redactedUrl ↔
      behindAt? p = behindAt? q) := by
  constructor
  · rw [Redis.maskedUrl_urlOf p host hscheme huser.2, Redis.maskedUrl_urlOf q host hscheme huser.2,
      String.ofList_inj, List.append_cancel_left_eq, shown_inj]
  · rw [Settings.Database.redactedUrl_urlOf p host d hscheme.1 huser,
      Settings.Database.redactedUrl_urlOf q host d hscheme.1 huser, String.ofList_inj, List.append_cancel_left_eq,
      shown_inj]

/-- The end of a password with an at sign is shown by both. -/
theorem masked_eq_iff_behind_at :
    Redis.maskedUrl (urlOf "redis".toList ['u'] "a@b".toList ['h']) = "redis://****@b@h" ∧
      Redis.maskedUrl (urlOf "redis".toList ['u'] "a@b".toList ['h']) ≠
        Redis.maskedUrl (urlOf "redis".toList ['u'] "c".toList ['h']) ∧
      (Settings.Database.ofUrl (urlOf "mysql".toList ['u'] "a@b".toList ['h'])).redactedUrl ≠
        (Settings.Database.ofUrl (urlOf "mysql".toList ['u'] "c".toList ['h'])).redactedUrl := by
  have hbehind : behindAt? "a@b".toList ≠ behindAt? "c".toList := by decide
  have hredis := @masked_eq_iff "redis".toList ['u'] (by decide) (by decide) ['h'] "a@b".toList "c".toList .standard
  have hmysql := @masked_eq_iff "mysql".toList ['u'] (by decide) (by decide) ['h'] "a@b".toList "c".toList (.ofUrl "")
  exact ⟨by decide +kernel, mt hredis.1.1 hbehind, mt hmysql.2.1 hbehind⟩

end Bearer
