import Bearer.Http.Wire
import Bearer.Proofs.Call.Trace
import Bearer.Proofs.Http.Posts
import Bearer.Proofs.Uuid
/-! The identifier that every response carries. It is the one that came with the request, if that is fit to be sent
back, and otherwise one that is drawn for this response and for nothing else, however the request ends. -/

namespace Bearer

/-! Generating identifiers for requests is no business of the operations on tokens. -/

theorem Request.ne_freshRequestId_of_looksUp {r : Request} (h : r.LooksUp) : r ≠ .freshRequestId := by
  rintro rfl
  exact h

theorem Policy.does_issue_unnumbered (p : Policy) (user : Uuid) :
    Action.Does (· ≠ .freshRequestId) (fun _ => True) (p.issue user) := by
  simp [issue, accessToken, refreshToken]

theorem Service.does_perform_unnumbered (s : Service) (op : Operation) :
    (s.perform op).Does (· ≠ .freshRequestId) fun _ => True := by
  cases op with
  | issue user =>
    rw [perform, ← Action.does_true]
    simp only [action, issue]
    cases Uuid.parse? user with
    | none => simp
    | some id => simpa using s.policy.does_issue_unnumbered id
  | refresh value =>
    rw [perform, ← Action.does_true]
    simp [action, refresh, Policy.rotate, Action.present, Policy.does_issue_unnumbered]
  | revoke value =>
    rw [perform, ← Action.does_true]
    simp [action, revoke, withdraw, Action.present]
  | introspect token => exact (s.does_introspect token).weaken fun _ => Request.ne_freshRequestId_of_looksUp

namespace Http

theorem App.does_serve (app : App) (r : Request) :
    (app.serve r).Does (· ≠ .freshRequestId) fun _ => True := by
  unfold serve
  split
  · trivial
  · simp [Call.request]
  · next o hroute =>
    split
    · trivial
    · next value hvalue =>
      rw [respond_eq]
      split
      · rw [Call.does_bind]
        refine (app.service.does_perform_unnumbered (o.on value)).mono fun r _ => ?_
        cases r <;> trivial
      · trivial

namespace Headers

theorem values_put (hs : Headers) {name : String} (hname : Text.lowerAscii name = name) (value : List UInt8) :
    (hs.put name value).values name = [value] := by
  simp [values, put, hname, List.filter_append, List.filter_filter]

/-- A visible character of ASCII, a space or a tab. -/
def IsVisible (b : UInt8) : Prop := 32 ≤ b ∧ b ≤ 126 ∨ b = 9

instance (b : UInt8) : Decidable (IsVisible b) := inferInstanceAs (Decidable (_ ∨ _))

/-- Between 1 and 128 bytes, all of them visible. -/
def IsFit (value : List UInt8) : Prop := 1 ≤ value.length ∧ value.length ≤ 128 ∧ ∀ b ∈ value, IsVisible b

instance (value : List UInt8) : Decidable (IsFit value) := inferInstanceAs (Decidable (_ ∧ _ ∧ _))

theorem toNat_char (b : UInt8) : (Char.ofNat b.toNat).toNat = b.toNat := by
  have hlt := b.toNat_lt
  have hvalid : b.toNat.isValidChar := Or.inl (by omega)
  rw [Char.ofNat, dif_pos hvalid]
  rfl

theorem isPlainText_text (value : List UInt8) : isPlainText (text value) = true ↔ ∀ b ∈ value, IsVisible b := by
  have htab : ∀ b : UInt8, Char.ofNat b.toNat = '\t' ↔ b = 9 := by
    intro b
    rw [← Char.toNat_inj, toNat_char, ← UInt8.toNat_inj]
    rfl
  simp [isPlainText, text, toNat_char, htab, IsVisible, UInt8.le_iff_toNat_le]

theorem isFitId_text (value : List UInt8) : isFitId (text value) = true ↔ IsFit value := by
  have hlength : (text value).length = value.length := by simp [text]
  have hempty : text value ≠ "" ↔ 1 ≤ value.length := by
    rw [← hlength, Nat.one_le_iff_ne_zero, ne_eq, ne_eq, String.length_eq_zero_iff]
  rw [isFitId, Bool.and_eq_true, Bool.and_eq_true, isPlainText_text, hlength]
  simp [IsFit, hempty, and_assoc]

/-- As bytes of ASCII the text of a value is the value. -/
theorem bytes_text {value : List UInt8} (h : ∀ b ∈ value, IsVisible b) : Utf8.bytes (text value) = value := by
  have hbyte : ∀ b : UInt8, IsVisible b → String.utf8EncodeChar (Char.ofNat b.toNat) = [b] := by
    intro b hb
    have hlt : b.toNat < 128 := by
      rcases hb with ⟨-, hle⟩ | rfl
      · exact Nat.lt_of_le_of_lt (UInt8.le_iff_toNat_le.1 hle) (by decide)
      · decide
    -- Below 128 a character is encoded as the one byte of its number.
    have hall : ∀ n < 128, String.utf8EncodeChar (Char.ofNat n) = [UInt8.ofNat n] := by decide
    rw [hall _ hlt, UInt8.ofNat_toNat]
  induction value with
  | nil => rfl
  | cons b value ih =>
    obtain ⟨hb, hvalue⟩ := List.forall_mem_cons.1 h
    have hrest := ih hvalue
    rw [Utf8.bytes, text, String.toList_ofList, Utf8.encode] at hrest ⊢
    rw [List.map_cons, List.flatMap_cons, hbyte b hb, hrest]
    rfl

theorem value?_text {value : List UInt8} (h : ∀ b ∈ value, IsVisible b) : value? (text value) = some value := by
  rw [value?, bytes_text h, if_pos]
  rw [List.all_eq_true]
  intro b hb
  rcases h b hb with ⟨hge, hle⟩ | rfl
  · have hne : b ≠ 127 := by rintro rfl; exact absurd hle (by decide)
    simp [hge, hne]
  · rfl

theorem value?_uuid (id : Uuid) : value? id.text = some (Utf8.bytes id.text) := by
  have hsendable : ∀ c ∈ id.text.toList,
      ((String.utf8EncodeChar c).all fun b => (32 ≤ b && b ≠ 127) || b == 9) = true :=
    id.forall_mem_text (by decide) (by decide)
  rw [value?, if_pos]
  rw [List.all_eq_true]
  intro b hb
  obtain ⟨c, hc, hb⟩ := List.mem_flatMap.1 hb
  exact List.all_eq_true.1 (hsendable c hc) b hb

end Headers

namespace Inbound

/-- The identifier that came with a request, if it is fit to be sent back. Only the first one counts. -/
def fitId? (i : Inbound) : Option (List UInt8) :=
  (i.headers.values requestIdName).head?.filter fun value => decide (Headers.IsFit value)

theorem header?_request (i : Inbound) (name : String) :
    i.request.header? name = (i.headers.values name).head?.map Headers.text := by
  rw [Request.header?, request, List.find?_map, Headers.values, List.head?_map, List.head?_filter, Option.map_map,
    Option.map_map]
  rfl

theorem sentId_request (i : Inbound) :
    (i.request.header? "x-request-id").filter isFitId = i.fitId?.map Headers.text := by
  have hsame : isFitId ∘ Headers.text = fun value => decide (Headers.IsFit value) := by
    funext value
    rw [Function.comp_apply, Bool.eq_iff_iff, Headers.isFitId_text, decide_eq_true_iff]
  rw [header?_request, Option.filter_map, hsame, fitId?, requestIdName]

variable {i : Inbound}

theorem id_of_fit {value : List UInt8} (h : i.fitId? = some value) :
    i.request.id = .done (.sent (Headers.text value)) := by
  rw [Request.id, sentId_request, h]
  rfl

theorem id_of_unfit (h : i.fitId? = none) :
    i.request.id = .ask .freshRequestId fun id => .done (.fresh id) := by
  rw [Request.id, sentId_request, h]
  rfl

end Inbound

theorem Response.mem_headers {r : Response} {h : String × List UInt8} (hmem : h ∈ r.headers) :
    h = ("content-type", Utf8.bytes "application/json") ∨ h = ("www-authenticate", Utf8.bytes "Bearer") := by
  rcases List.mem_append.1 hmem with hmem | hmem
  · obtain ⟨t, ht, rfl⟩ := Option.map_eq_some_iff.1 (Option.mem_toList.1 hmem)
    cases hbody : r.body with
    | empty => rw [hbody] at ht; cases ht
    | _ => rw [hbody] at ht; cases ht; exact Or.inl rfl
  · obtain ⟨t, ht, rfl⟩ := Option.map_eq_some_iff.1 (Option.mem_toList.1 hmem)
    obtain ⟨-, ht⟩ := Option.ite_none_right_eq_some.1 ht
    cases ht
    exact Or.inr rfl

/-- With an identifier that can be sent a response has that one and no other, and its own headers besides. -/
theorem Response.headers_identified (r : Response) {id : RequestId} {value : List UInt8}
    (hvalue : Headers.value? id.text = some value) :
    (r.identified id).headers.values requestIdName = [value] ∧
      ∀ h ∈ (r.identified id).headers, h = (requestIdName, value) ∨ h ∈ r.headers := by
  have hheaders : (r.identified id).headers = r.headers.put requestIdName value := by rw [identified, hvalue]
  rw [hheaders]
  refine ⟨Headers.values_put _ (by decide) value, fun h hh => ?_⟩
  rcases List.mem_append.1 hh with hh | hh
  · exact Or.inr (List.mem_filter.1 hh).1
  · exact Or.inl (List.mem_singleton.1 hh)

theorem App.exchange_eq (app : App) (i : Inbound) :
    app.exchange i = i.request.id.bind fun id =>
      (app.serve i.request).bind fun r => .done (r.identified id) := by
  simp [exchange, handle, Call.bind_assoc]

/-- The identifiers that were drawn for requests. -/
def drawnIds (xs : List Exchange) : List Uuid :=
  xs.filterMap fun
    | ⟨.freshRequestId, id⟩ => some id
    | _ => none

theorem drawnIds_eq_nil {xs : List Exchange} (h : ∀ x ∈ xs, x.request ≠ .freshRequestId) : drawnIds xs = [] := by
  refine List.filterMap_eq_nil_iff.2 fun x hx => ?_
  obtain ⟨r, a⟩ := x
  cases r with
  | freshRequestId => exact absurd rfl (h _ hx)
  | _ => rfl

variable (app : App) {σ : Type} (answer : (r : Bearer.Request) → σ → r.Answer × σ)

theorem App.drawnIds_serve (r : Request) (s : σ) : drawnIds ((app.serve r).trace answer s) = [] :=
  drawnIds_eq_nil ((app.does_serve r).mem_trace answer)

/-- Once a request has an identifier that can be sent, its response has that one, and no other is drawn, whether the
request is served, refused or belongs to no route. -/
theorem App.identified_of_serve (r : Request) (id : RequestId) {value : List UInt8}
    (hvalue : Headers.value? id.text = some value) (s : σ) :
    let c := (app.serve r).bind fun response => .done (response.identified id)
    let out := (c.run answer s).1
    out.headers.values requestIdName = [value] ∧
      (∀ h ∈ out.headers, h = (requestIdName, value) ∨
        h = ("content-type", Utf8.bytes "application/json") ∨ h = ("www-authenticate", Utf8.bytes "Bearer")) ∧
      drawnIds (c.trace answer s) = [] := by
  intro c out
  have hout : out = (((app.serve r).run answer s).1).identified id := congrArg Prod.fst (Call.run_bind answer _ _ s)
  have htrace : c.trace answer s = (app.serve r).trace answer s :=
    (Call.trace_bind answer _ _ s).trans (List.append_nil _)
  obtain ⟨hone, hmem⟩ := ((app.serve r).run answer s).1.headers_identified hvalue
  rw [hout, htrace]
  exact ⟨hone, fun h hh => (hmem h hh).imp_right Response.mem_headers, app.drawnIds_serve answer r s⟩

/-- Whatever is requested and however the surroundings answer, the response has one identifier. It is the one that
was sent first with the request, if that is fit, and then none is drawn; otherwise it is the text of the one that is
drawn, once and for this response alone. All else in the headers is the same for every caller. -/
theorem identified_of_exchange (i : Inbound) (s : σ) :
    let out := ((app.exchange i).run answer s).1
    let drawn := drawnIds ((app.exchange i).trace answer s)
    ∃ value, out.headers.values requestIdName = [value] ∧
      ((i.fitId? = some value ∧ drawn = []) ∨
        (i.fitId? = none ∧ ∃ id : Uuid, value = Utf8.bytes id.text ∧ drawn = [id])) ∧
      ∀ h ∈ out.headers, h = (requestIdName, value) ∨
        h = ("content-type", Utf8.bytes "application/json") ∨ h = ("www-authenticate", Utf8.bytes "Bearer") := by
  intro out drawn
  cases hfit : i.fitId? with
  | some value =>
    have hvisible : ∀ b ∈ value, Headers.IsVisible b := by
      obtain ⟨-, hfits⟩ := Option.filter_eq_some_iff.1 hfit
      exact (of_decide_eq_true hfits).2.2
    have hexchange : app.exchange i =
        (app.serve i.request).bind fun r => .done (r.identified (.sent (Headers.text value))) := by
      rw [app.exchange_eq, Inbound.id_of_fit hfit, Call.done_bind]
    obtain ⟨hone, hmem, hdrawn⟩ := app.identified_of_serve answer i.request
      (.sent (Headers.text value)) (Headers.value?_text hvisible) s
    rw [← hexchange] at hone hmem hdrawn
    exact ⟨value, hone, Or.inl ⟨rfl, hdrawn⟩, hmem⟩
  | none =>
    have hexchange : app.exchange i = .ask .freshRequestId fun id =>
        (app.serve i.request).bind fun r => .done (r.identified (.fresh id)) := by
      rw [app.exchange_eq, Inbound.id_of_unfit hfit, Call.ask_bind]
      rfl
    -- The identifier is drawn first, before anything else can change the surroundings.
    let id : Uuid := (answer .freshRequestId s).1
    obtain ⟨hone, hmem, hserved⟩ := app.identified_of_serve answer i.request
      (.fresh id) (Headers.value?_uuid id) (answer .freshRequestId s).2
    have hout : out = (((app.serve i.request).bind fun r => .done (r.identified (.fresh id))).run answer
        (answer .freshRequestId s).2).1 := by
      show ((app.exchange i).run answer s).1 = _
      rw [hexchange, Call.run_ask]
    have hdrawn : drawn = [id] := by
      show drawnIds ((app.exchange i).trace answer s) = _
      rw [hexchange, Call.trace_ask]
      exact congrArg (List.cons id) hserved
    rw [← hout] at hone hmem
    exact ⟨Utf8.bytes id.text, hone, Or.inr ⟨rfl, id, rfl, hdrawn⟩, hmem⟩

end Http

end Bearer
