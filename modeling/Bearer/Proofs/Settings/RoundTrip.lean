import Bearer.Proofs.Json.RoundTrip
import Bearer.Proofs.Settings.Written
/-! Settings as JSON text. Reading undoes writing, whatever the settings are, so a text that settings are read from says
the same as the one that is written of them, however it was put. -/

namespace Bearer

/-- An orderly document has a written form. -/
theorem Json.Orderly.isWritten {j : Json} (h : j.Orderly) : j.IsWritten := by
  induction h with
  | null => exact .null
  | bool b => exact .bool b
  | str s => exact .str s
  | nat n =>
    apply IsWritten.num
    intro ds hds
    cases hds
  | int i =>
    apply IsWritten.num
    intro ds hds
    cases hds
  | obj _ _ ih => exact .obj ih

namespace Settings

/-- An object whose keys are the names of the fields is a record as it is. -/
theorem record?_obj {names : List String} {members : List (String × Json)} (hnodup : names.Nodup)
    (hnames : members.map Prod.fst = names) : (Json.obj members).record? names = some ⟨false, members⟩ := by
  subst hnames
  have hall : members.filter (fun m => (members.map Prod.fst).contains m.1) = members := by
    apply List.filter_eq_self.2
    intro m hm
    exact List.contains_iff_mem.2 (List.mem_map_of_mem hm)
  simp only [Json.record?, hall]
  rw [if_pos hnodup]

/-- JSON says what is written in it. -/
theorem faithful_json : Format.json.Faithful Eq where
  text := by
    rintro s _ rfl
    rfl
  flag := by
    rintro b _ rfl
    rfl
  unsigned := by
    rintro bits n _ hn rfl
    have hint : (Json.ofNat n).int? 0 (Bits.count bits - 1) = some (n : Int) := by
      simp only [Json.ofNat, Json.int?, Numeral.toInt?_ofNat, Option.bind_some]
      rw [if_pos (by omega)]
    have hcast : ((Bits.count bits - 1 : Nat) : Int) = (Bits.count bits : Int) - 1 := by omega
    show ((Json.ofNat n).int? 0 ((Bits.count bits - 1 : Nat) : Int)).map Int.toNat = some n
    rw [hcast, hint]
    rfl
  signed := by
    rintro i _ hi rfl
    obtain ⟨hlow, hhigh⟩ := of_decide_eq_true hi
    show (Json.ofInt i).int? (Bits.least 64) (Bits.count 63 - 1) = some i
    simp only [Json.ofInt, Json.int?, Numeral.toInt?_ofInt, Option.bind_some]
    rw [if_pos ⟨hlow, Int.le_sub_one_of_lt hhigh⟩]
  caseName := by
    rintro s _ rfl
    rfl
  absent := by
    rintro _ rfl
    rfl
  present := by
    rintro s _ rfl
    rfl
  record := by
    rintro names members _ hnodup hnames rfl
    refine ⟨members, ?_, fun k j hk => ⟨j, (Pairs.lookup_eq_at? k members).trans hk, rfl⟩⟩
    show ((Json.obj members).record? names).map Json.Record.fields = some members
    rw [record?_obj hnodup hnames]
    rfl

/-- The settings that a text says, if it says some. -/
def parse? (text : String) : Option Settings := (Json.parse? text).bind (read? .json)

/-- The text of settings. -/
def write (s : Settings) : String := s.toJson.write

theorem parse?_write (s : Settings) : parse? s.write = some s := by
  rw [parse?, write, Json.parse?_write (orderly_toJson s).isWritten, Option.bind_some]
  exact read?_of_stands faithful_json rfl

/-- Settings are read back from what is written of them, whatever they are; and what is written of the settings that a
text says, says the same as the text. -/
theorem parse?_rewritten : (∀ s : Settings, parse? s.write = some s) ∧
    ∀ text, ((parse? text).map write).bind parse? = parse? text := by
  refine ⟨parse?_write, fun text => ?_⟩
  cases parse? text with
  | none => rfl
  | some s => rw [Option.map_some, Option.bind_some, parse?_write]

/-- Sections as arrays, a section with more than its own fields, and what is left out where there is a default. -/
example : (parse? ("[\"staging\",[\"h\",1],[\"u\",9,0,1,2,3]," ++
    "\x7b\"jwt\":[\"\\ud83d\\ude00\",-1,2,\"i\"],\"x\":[]\x7d,[\"r\"]]")).map
      (fun s => (s.environment, s.server, s.database.slowQuery, s.jwt.secret, s.cache.keyName)) =
        some (.staging, .ofHost "h" 1, 250, "😀", none) := by
  decide +kernel

end Settings

end Bearer
