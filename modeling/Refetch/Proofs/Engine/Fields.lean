import Refetch.Engine.Http
import Refetch.Proofs.Header.Conversion
/-!
# What a request carries

An engine completes the headers of a request on their way to the peer. Each step adds a field that
is lacking, and leaves those that are there (`Keeps`). So every header of the request reaches the
peer with its values (`keeps_fields`, `keeps_toWire`), and the media type of the body does if no
header names one (`getAll_contentType`).
-/

namespace Refetch

namespace WireHeaders

variable {w w' w'' : WireHeaders} {name : String}

theorem contains_iff : w.contains name = true ↔ foldName name ∈ w.fields.map (·.1) := by
  simp [contains, List.any_eq_true, List.mem_map]

theorem contains_append (w : WireHeaders) (n : String) (v : Bytes) (name : String) :
    (w.append n v).contains name = (w.contains name || sameName n name) := by
  rw [Bool.eq_iff_iff, Bool.or_eq_true, contains_iff, contains_iff, append, names_appendTo,
    sameName, beq_iff_eq]
  split
  · constructor
    · exact .inl
    · rintro (h | h)
      · exact h
      · rwa [← h]
  · rw [List.mem_append, List.mem_singleton, eq_comm (a := foldName name)]

theorem contains_congr (h : sameName name' name = true) : w.contains name' = w.contains name := by
  rw [Bool.eq_iff_iff, contains_iff, contains_iff, eq_of_beq h]

/-- The names of the first table have the same values in the second. -/
structure Keeps (w w' : WireHeaders) : Prop where
  contains : ∀ name, w.contains name = true → w'.contains name = true
  values : ∀ name, w.contains name = true → w'.getAll name = w.getAll name

theorem Keeps.refl (w : WireHeaders) : w.Keeps w := ⟨fun _ h => h, fun _ _ => rfl⟩

theorem Keeps.trans (h : w.Keeps w') (h' : w'.Keeps w'') : w.Keeps w'' where
  contains name hn := h'.contains name (h.contains name hn)
  values name hn := (h'.values name (h.contains name hn)).trans (h.values name hn)

theorem keeps_append (h : w.contains name = false) (v : Bytes) : w.Keeps (w.append name v) := by
  refine ⟨fun other ho => ?_, fun other ho => ?_⟩
  · rw [contains_append, ho]
    rfl
  · have hn : sameName name other = false := by
      rw [Bool.eq_false_iff]
      intro hs
      rw [contains_congr hs, ho] at h
      cases h
    rw [getAll_append, hn]
    exact List.append_nil _

/-- A field that is added if it is lacking. -/
theorem keeps_lacking (w : WireHeaders) (name : String) (v : Bytes) :
    w.Keeps (if w.contains name then w else w.append name v) := by
  split
  · exact .refl w
  · exact keeps_append (Bool.eq_false_iff.2 ‹_›) v

end WireHeaders

namespace Http

open WireHeaders

theorem keeps_authorization (u : Url) (w : WireHeaders) : w.Keeps (addAuthorization u w) := by
  unfold addAuthorization
  split
  · exact keeps_lacking ..
  · exact .refl w

theorem keeps_defaults (defaults w : WireHeaders) : w.Keeps (addDefaults defaults w) := by
  unfold addDefaults
  induction ("accept", Text.Utf8.encode "*/*") :: defaults.toList with
  | nil => exact .refl w
  | cons f fs ih => exact ih.trans (keeps_lacking ..)

theorem keeps_toWire (h : Hop) (clock : Timestamp) (jar : CookieJar) :
    h.headers.Keeps (h.toWire clock jar).headers := by
  unfold Hop.toWire
  dsimp only
  cases jar.header? clock h.url with
  | none => exact keeps_lacking ..
  | some value => exact (keeps_lacking ..).trans (keeps_lacking ..)

theorem keeps_contentType {r : Request} {w w' : WireHeaders}
    (hw : w.contains contentType = r.headers.contains contentType)
    (h : addContentType r w = .ok w') : w.Keeps w' := by
  unfold addContentType at h
  split at h
  · cases h
    exact .refl w
  · split at h
    · cases h
      exact .refl w
    · split at h
      · cases h
        exact keeps_append (by rw [hw]; exact Bool.eq_false_iff.2 ‹_›) _
      · cases h

/-- The media type of the body becomes the only one if the headers name none. -/
theorem getAll_addContentType {r : Request} {w w' : WireHeaders} {t : String}
    (hw : w.getAll contentType = []) (hr : r.headers.contains contentType = false)
    (ht : r.body.bind Payload.contentType? = some t) (h : addContentType r w = .ok w') :
    w'.contains contentType = true ∧ w'.getAll contentType = [Text.Utf8.encode t] := by
  unfold addContentType at h
  rw [ht] at h
  dsimp only at h
  rw [if_neg (by simp [hr])] at h
  split at h
  · cases h
    rw [contains_append, getAll_append, hw, sameName_self, Bool.or_true]
    exact ⟨rfl, rfl⟩
  · cases h

/-- A field that is added if it is lacking has one name only. -/
theorem contains_lacking {w : WireHeaders} {name other : String} {v : Bytes}
    (h : sameName name other = false) :
    (if w.contains name then w else w.append name v).contains other = w.contains other := by
  split
  · rfl
  · rw [contains_append, h, Bool.or_false]

theorem contains_addDefaults {defaults w : WireHeaders} {name : String}
    (ha : sameName "accept" name = false)
    (hd : ∀ f ∈ defaults.toList, sameName f.1 name = false) :
    (addDefaults defaults w).contains name = w.contains name := by
  have hadd : ∀ fs : List (String × Bytes), (∀ f ∈ fs, sameName f.1 name = false) →
      (fs.foldr (fun f h => if h.contains f.1 then h else h.append f.1 f.2) w).contains name =
        w.contains name := by
    intro fs hfs
    induction fs with
    | nil => rfl
    | cons f fs ih =>
      rw [List.foldr_cons, contains_lacking (hfs f List.mem_cons_self)]
      exact ih fun f hf => hfs f (List.mem_cons_of_mem _ hf)
  exact hadd _ (List.forall_mem_cons.2 ⟨ha, hd⟩)

theorem contains_addContentType {r : Request} {w w' : WireHeaders} {name : String}
    (hn : sameName contentType name = false) (h : addContentType r w = .ok w') :
    w'.contains name = w.contains name := by
  unfold addContentType at h
  split at h
  · cases h
    rfl
  · split at h
    · cases h
      rfl
    · split at h
      · cases h
        rw [contains_append, hn, Bool.or_false]
      · cases h

theorem contains_addAuthorization {u : Url} {w : WireHeaders} {name : String}
    (hn : sameName "authorization" name = false) :
    (addAuthorization u w).contains name = w.contains name := by
  unfold addAuthorization
  split
  · exact contains_lacking hn
  · rfl

/-! ## The first request -/

section First

variable {ν : Type} {e : HttpEngine ν} {r : Request} {url : Url}
  {wire fields : WireHeaders}

theorem contains_toWire (hw : r.headers.toWire = .ok wire) (name : String) :
    wire.contains name = r.headers.contains name := by
  rw [Bool.eq_iff_iff, contains_iff]
  exact ((HeaderList.converts_toWire r.headers).names wire hw).2 name

/-- The credential is no media type. -/
theorem getAll_authorization (u : Url) (w : WireHeaders) :
    (addAuthorization u w).getAll contentType = w.getAll contentType := by
  have hn : sameName "authorization" contentType = false := by decide
  unfold addAuthorization
  split
  · split
    · rfl
    · rw [getAll_append, hn]
      exact List.append_nil _
  · rfl

theorem fields_eq_ok (h : e.fields r url wire = .ok fields) : ∃ typed,
    addContentType r (addAuthorization url wire) = .ok typed ∧
      fields = addDefaults e.config.defaults typed := by
  unfold HttpEngine.fields at h
  cases ht : addContentType r (addAuthorization url wire) with
  | error f => rw [ht] at h; cases h
  | ok typed =>
    rw [ht] at h
    cases h
    exact ⟨typed, rfl, rfl⟩

/-- **Every header** of the request reaches the peer with its values. -/
theorem keeps_fields (hw : r.headers.toWire = .ok wire) (h : e.fields r url wire = .ok fields) :
    wire.Keeps fields := by
  obtain ⟨typed, ht, rfl⟩ := fields_eq_ok h
  have hc : (addAuthorization url wire).contains contentType = r.headers.contains contentType := by
    rw [contains_addAuthorization (by decide), contains_toWire hw]
  exact ((keeps_authorization url wire).trans (keeps_contentType hc ht)).trans
    (keeps_defaults ..)

/-- **The media type** of the body reaches the peer if the headers name none. -/
theorem getAll_contentType {t : String} (hw : r.headers.toWire = .ok wire)
    (h : e.fields r url wire = .ok fields) (hr : r.headers.contains contentType = false)
    (ht : r.body.bind Payload.contentType? = some t) :
    fields.contains contentType = true ∧ fields.getAll contentType = [Text.Utf8.encode t] := by
  obtain ⟨typed, htyped, rfl⟩ := fields_eq_ok h
  have hnone : wire.getAll contentType = [] := by
    rw [(HeaderList.converts_toWire r.headers).values wire hw,
      HeaderList.contains_eq_false_iff.1 hr]
    rfl
  have hauth : (addAuthorization url wire).getAll contentType = [] :=
    (getAll_authorization url wire).trans hnone
  obtain ⟨hc, hg⟩ := getAll_addContentType hauth hr ht htyped
  have hk := keeps_defaults e.config.defaults typed
  exact ⟨hk.contains _ hc, (hk.values _ hc).trans hg⟩

/-- A name that neither the request nor the defaults have, and that is not added for them. -/
theorem lacks_fields {name : String} (hw : r.headers.toWire = .ok wire)
    (h : e.fields r url wire = .ok fields) (hr : r.headers.contains name = false)
    (hd : ∀ f ∈ e.config.defaults.toList, sameName f.1 name = false)
    (ha : ∀ added ∈ ["authorization", contentType, "accept"], sameName added name = false) :
    fields.contains name = false := by
  obtain ⟨typed, htyped, rfl⟩ := fields_eq_ok h
  rw [contains_addDefaults (ha _ (by decide)) hd, contains_addContentType (ha _ (by decide)) htyped,
    contains_addAuthorization (ha _ (by decide)), contains_toWire hw, hr]

end First

end Http

end Refetch
