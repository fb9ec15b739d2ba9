import Refetch.Proofs.Engine.Fields
import Refetch.Proofs.Engine.Uploads
/-!
# First requests

What an engine sends first (`Http.opening?`) has the method, the URL, the fields and the body of a
request, framed for the peer.

1. Framing changes fields that tell where the body ends, and no others (`others_frame`), so all
   others are sent as they are (`opening?_spec`).
2. If no such field is there, the body is framed as it is known (`frame_of_unframed`). What is sent is
   then the body as the transport takes it (`opening?_of_selfFramed`).
-/

namespace Refetch

/-! ## Other fields -/

namespace WireHeaders

variable {w w' : WireHeaders} {name : String} {names : List String}

/-- The fields of other names than these. -/
def others (names : List String) (w : WireHeaders) : List (String × List Bytes) :=
  w.fields.filter fun f => f.1 ∉ names

theorem find?_others (h : foldName name ∉ names) :
    (w.others names).find? (·.1 == foldName name) = w.fields.find? (·.1 == foldName name) := by
  rw [others, List.find?_filter]
  refine List.find?_congr fun f _ => ?_
  by_cases hf : f.1 = foldName name
  · simp [hf, h]
  · simp [hf]

theorem getAll_of_others (h : w.others names = w'.others names) (hn : foldName name ∉ names) :
    w.getAll name = w'.getAll name := by
  rw [getAll, getAll, ← find?_others hn, h, find?_others hn]

theorem contains_of_others (h : w.others names = w'.others names) (hn : foldName name ∉ names) :
    w.contains name = w'.contains name := by
  rw [contains, contains, ← List.isSome_find?, ← List.isSome_find?, ← find?_others hn, h,
    find?_others hn]

theorem others_erase (w : WireHeaders) (h : foldName name ∈ names) :
    (w.erase name).others names = w.others names := by
  rw [others, others, erase, List.filter_filter]
  refine List.filter_congr fun f _ => ?_
  by_cases hf : f.1 = foldName name
  · simp [hf, h]
  · simp [hf]

theorem erase_of_lacking (h : w.contains name = false) : w.erase name = w := by
  have hf : ∀ f ∈ w.fields, (f.1 != foldName name) = true := by
    simpa [contains, bne_iff_ne] using h
  rw [erase, List.filter_eq_self.2 hf]

end WireHeaders

namespace Http

open WireHeaders

variable {w : WireHeaders} {method : Method} {own : Framing} {bs : Bytes} {f : Framed}

/-! ## Framing -/

theorem others_chunkedFields (w : WireHeaders) :
    (chunkedFields w).others framingFields = w.others framingFields := by
  have hcoded : WireHeaders.others framingFields ⟨w.fields.map fun f =>
      (f.1, if f.1 == transferEncoding then endInChunks f.2 else f.2)⟩ =
        w.others framingFields := by
    rw [others, others, List.filter_map]
    refine (List.map_congr_left fun f hf => ?_).trans (List.map_id _)
    have hn : f.1 ∉ framingFields := by simpa using (List.mem_filter.1 hf).2
    have hcoding : ¬ (f.1 == transferEncoding) = true := fun h =>
      hn (by simp [eq_of_beq h, framingFields])
    exact Prod.ext rfl (if_neg hcoding)
  unfold chunkedFields
  dsimp only
  split
  · rw [others_erase _ (by decide), hcoded]
  · exact hcoded

theorem others_of_map {x : Except UploadFault Bytes} {framing : Framing}
    (h : x.map (Framed.mk w framing) = .ok f) : f.fields = w := by
  obtain ⟨bs, -, rfl⟩ := Upload.exists_of_map h
  rfl

/-- **Framing** changes no field but those that tell where the body ends. -/
theorem others_frame (h : frame method w own bs = .ok f) :
    f.fields.others framingFields = w.others framingFields := by
  unfold frame at h
  split at h
  · cases h
    exact others_erase _ (by decide)
  · split at h
    · cases h
      exact others_chunkedFields w
    · split at h
      · rw [others_of_map h]
      · rw [others_of_map h]
        exact others_erase _ (by decide)
      · split at h <;> cases h <;> rfl

/-- No field tells where the body ends. -/
def Unframed (w : WireHeaders) : Prop := ∀ name ∈ framingFields, w.contains name = false

theorem statedLength?_of_unframed (h : Unframed w) :
    statedLength? (w.getAll contentLength) = none := by
  have hnone : w.fields.find? (·.1 == foldName contentLength) = none := by
    rw [← Option.isNone_iff_eq_none, ← Option.isSome_eq_false_iff, List.isSome_find?]
    exact h contentLength (by decide)
  rw [getAll, hnone]
  rfl

/-- **Without such fields** a body is framed as it is known. -/
theorem frame_of_unframed (h : Unframed w) : frame method w own bs =
    match own with
    | .none => .ok ⟨w, .none, []⟩
    | .length n => (Upload.cut n bs).map (⟨w, .length n, ·⟩)
    | .chunked =>
      if method.isBodiless then .ok ⟨w, .none, []⟩ else .ok ⟨w, .chunked, bs⟩ := by
  have hcoding : w.contains transferEncoding = false := h transferEncoding (by decide)
  have hlength : w.contains contentLength = false := h contentLength (by decide)
  unfold frame
  rw [statedLength?_of_unframed h, erase_of_lacking hcoding, erase_of_lacking hlength, hcoding]
  cases own <;> rfl

/-! ## First hops -/

/-- The first request to a peer, if the body gets through. -/
def opening? (t : Transport) (r : Request) (u : Url) (fields : WireHeaders) : Option Hop :=
  (load t r.body).toOption.bind fun l => (firstHop r.method u fields true l).toOption

variable {t : Transport} {r : Request} {u : Url} {fields : WireHeaders} {hop : Hop}

theorem firstHop_spec {reachable : Bool} {l : Loaded}
    (h : firstHop method u fields reachable l = .ok hop) :
    hop.method = method ∧ hop.url = u ∧
      hop.headers.others framingFields = fields.others framingFields := by
  cases l with
  | none =>
    cases h
    exact ⟨rfl, rfl, others_erase _ (by decide)⟩
  | buffer bs =>
    obtain ⟨f, hf, rfl⟩ := Upload.exists_of_map h
    exact ⟨rfl, rfl, others_frame hf⟩
  | stream length source =>
    rw [firstHop] at h
    cases hc : Upload.collect reachable length source with
    | error e => rw [hc] at h; cases h
    | ok bs =>
      rw [hc] at h
      obtain ⟨f, hf, rfl⟩ := Upload.exists_of_map h
      refine ⟨rfl, rfl, (others_frame hf).trans ?_⟩
      split
      · exact others_erase _ (by decide)
      · rfl

/-- **The first request** has the method, the URL and all fields that do not tell where the body
ends. -/
theorem opening?_spec (h : opening? t r u fields = some hop) :
    hop.method = r.method ∧ hop.url = u ∧
      hop.headers.others framingFields = fields.others framingFields := by
  obtain ⟨l, -, hh⟩ := Option.bind_eq_some_iff.1 h
  exact firstHop_spec (Payload.ok_of_toOption hh)

end Http

/-! ## Bodies that tell their own end -/

/-- The framing is one of this body. -/
def Framing.Fits (body : Bytes) : Framing → Prop
  | none => body = []
  | length n => n = body.length
  | chunked => True

namespace Http

open WireHeaders

variable {t : Transport} {r : Request} {u : Url} {fields : WireHeaders} {hop : Hop} {p : Payload}
  {bs : Bytes}

/-- How the end of a body is made known that got through. -/
def framingOf (p : Payload) (bs : Bytes) : Transport → Framing
  | .streaming => Upload.streamFraming p.contentLength?
  | .buffering => Upload.bufferFraming bs

theorem fits_framingOf (h : p.uploaded? t = some bs) : (framingOf p bs t).Fits bs := by
  cases t with
  | streaming =>
    obtain ⟨s, -, hs⟩ := Payload.uploads_of_uploaded h
    unfold framingOf
    cases hc : p.contentLength? with
    | none => trivial
    | some n =>
      rw [hc] at hs
      exact hs.2.symm
  | buffering =>
    show (if bs.isEmpty then Framing.none else .length bs.length).Fits bs
    split
    · exact List.isEmpty_iff.1 ‹_›
    · rfl

/-- A buffered body is framed as it is. -/
theorem firstHop_buffer (h : Unframed fields) {method : Method} {reachable : Bool} :
    firstHop method u fields reachable (.buffer bs) =
      .ok ⟨method, u, fields, Upload.bufferFraming bs, some bs, true⟩ := by
  rw [firstHop, frame_of_unframed h, Upload.bufferFraming]
  cases bs with
  | nil => rfl
  | cons b bs =>
    rw [if_neg nofun]
    dsimp only
    rw [Upload.cut_of_le (Nat.le_refl _), List.take_length]
    rfl

/-- A stream is framed by its declared length, or comes in chunks. -/
theorem firstHop_stream (h : Unframed fields) {method : Method} {reachable : Bool}
    {length : Option Nat} {s : Script} (hd : method.isBodiless = true → length.isSome) :
    firstHop method u fields reachable (.stream length s) =
      (Upload.stream reachable length s).map fun bs =>
        ⟨method, u, fields, Upload.streamFraming length, some bs, false⟩ := by
  have hfields : (if length.isSome then fields.erase contentLength else fields) = fields := by
    split
    · exact erase_of_lacking (h contentLength (by decide))
    · rfl
  rw [firstHop, hfields, Upload.stream]
  cases Upload.collect reachable length s with
  | error e => rfl
  | ok bs =>
    show (frame method fields _ bs).map _ = _
    rw [frame_of_unframed h]
    cases length with
    | none =>
      have hm : ¬ method.isBodiless = true := fun hm => nomatch hd hm
      dsimp only [Upload.streamFraming]
      rw [if_neg hm]
      rfl
    | some n =>
      dsimp only [Upload.streamFraming, Except.bind]
      cases Upload.cut n bs <;> rfl

/-- Only the body tells where it ends; and so it does with methods that hardly ever have one. -/
structure SelfFramed (r : Request) (fields : WireHeaders) : Prop where
  unframed : Unframed fields
  declared : r.method.isBodiless = true → ∀ p, r.body = some p → p.contentLength?.isSome = true

/-- **If only the body tells where it ends**, it is sent as the transport takes it. -/
theorem opening?_of_selfFramed (h : SelfFramed r fields) : opening? t r u fields =
      match r.body with
      | none => some ⟨r.method, u, fields, .none, none, true⟩
      | some p => (p.uploaded? t).map fun bs =>
          ⟨r.method, u, fields, framingOf p bs t, some bs, t = .buffering⟩ := by
  unfold opening? load
  cases hp : r.body with
  | none =>
    have herase : fields.erase transferEncoding = fields :=
      erase_of_lacking (h.unframed transferEncoding (by decide))
    dsimp only [Except.toOption, Option.bind_some, firstHop]
    rw [herase]
  | some p =>
    cases t with
    | buffering =>
      dsimp only [Payload.uploaded?]
      cases p.readAll with
      | error f => rfl
      | ok bs =>
        dsimp only [Except.toOption, Except.map, Option.bind_some]
        rw [firstHop_buffer h.unframed]
        rfl
    | streaming =>
      dsimp only [Payload.uploaded?]
      cases p.openReader.1 with
      | error f => rfl
      | ok s =>
        dsimp only [Except.toOption, Except.map, Option.bind_some]
        rw [firstHop_stream h.unframed fun hm => h.declared hm p hp]
        cases Upload.stream true p.contentLength? s <;> rfl

theorem isSome_opening? (h : SelfFramed r fields) :
    (opening? t r u fields).isSome ↔ ∀ p, r.body = some p → (p.uploaded? t).isSome := by
  rw [opening?_of_selfFramed h]
  cases r.body <;> simp

/-- What the first request uploads. -/
theorem body_of_opening (h : SelfFramed r fields) (ho : opening? t r u fields = some hop) :
    hop.framing.Fits (hop.body.getD []) ∧
      match r.body with
      | some p => p.uploaded? t = some (hop.body.getD []) ∧ p.Uploads (hop.body.getD []) t
      | none => hop.body.getD [] = [] := by
  rw [opening?_of_selfFramed h] at ho
  cases hp : r.body with
  | none =>
    rw [hp] at ho
    cases ho
    exact ⟨rfl, rfl⟩
  | some p =>
    rw [hp] at ho
    obtain ⟨bs, hbs, rfl⟩ := Option.map_eq_some_iff.1 ho
    exact ⟨fits_framingOf hbs, hbs, Payload.uploads_of_uploaded hbs⟩

end Http

end Refetch
