import QueryGateway.Proofs.Endpoint.Built
import QueryGateway.Routing.Table

/-!
# Shapes of route paths

The shape of a route path is what is left of its parts when the names of captures are
erased. For built endpoints it says the same as the shape of the address, and the route path
is one that a router can take: it is rooted, and each colon begins a named capture.
-/

namespace QueryGateway

namespace Url

/-- Whether a part of a route path is a literal text or a capture with a name. -/
def isRoutePart : List Char → Bool
  | ':' :: name => !name.isEmpty && name.all fun c => c != ':' && c != '*'
  | part => part.all fun c => c != ':' && c != '*'

/-- A path is split into the parts that it was joined from. -/
theorem splitAt_joinPath {parts : List (List Char)} (hparts : ∀ p ∈ parts, '/' ∉ p) :
    Text.splitAt '/' (joinPath parts) = [] :: parts := by
  have hjoin : joinPath parts = List.intercalate ['/'] ([] :: parts) := by
    induction parts with
    | nil => rfl
    | cons part rest ih =>
      have hrest := ih fun p hp => hparts p (List.mem_cons_of_mem part hp)
      cases rest <;> simp_all [joinPath, List.intercalate_cons_cons]
  rw [hjoin]
  exact Text.splitAt_intercalate (List.cons_ne_nil _ _)
    (List.forall_mem_cons.mpr ⟨List.not_mem_nil, hparts⟩)

/-- Paths have the same shape exactly if the same parts are left of them. -/
theorem shape_eq_iff (p q : String) : shape p = shape q ↔
    (Text.splitAt '/' p.toList).map erasePart = (Text.splitAt '/' q.toList).map erasePart := by
  have hsplit (path : String) : Text.splitAt '/' (shape path).toList =
      (Text.splitAt '/' path.toList).map erasePart := by
    rw [shape, String.toList_ofList]
    apply Text.splitAt_intercalate
    · exact fun h => Text.pieces_ne_nil _ _ (List.map_eq_nil_iff.mp h)
    · intro part hpart
      obtain ⟨whole, hwhole, rfl⟩ := List.mem_map.mp hpart
      rw [erasePart]
      split
      · decide
      · exact Text.notMem_of_mem_splitAt hwhole
  constructor
  · intro h
    rw [← hsplit p, ← hsplit q, h]
  · intro h
    rw [shape, shape, h]

end Url

namespace Segment

/-- A segment without the name of a capture. -/
def shape : Segment → Option (List Char)
  | literal text => some text
  | capture _ => none

variable {s s' : Segment}

/-- The text of a well-formed segment in a route path has no slash. -/
theorem WellFormed.notMem_routeText (hs : s.WellFormed) : '/' ∉ s.routeText := by
  cases s with
  | literal text => exact hs.1
  | capture name =>
    intro hmem
    rcases List.mem_cons.mp hmem with h | h
    · cases h
    · have hslash := hs.2 '/' h
      revert hslash
      decide

/-- The text of a well-formed literal begins with no colon. -/
theorem WellFormed.erasePart_literal {text : List Char} (hs : (literal text).WellFormed) :
    Url.erasePart text = text := by
  rw [Url.erasePart, if_neg]
  intro hbeq
  have hhead := beq_iff_eq.mp hbeq
  have hcolon := hs.2 ':' (List.mem_of_mem_head? hhead)
  revert hcolon
  decide

/-- Segments have the same shape exactly if their texts do. -/
theorem WellFormed.shape_eq_iff (hs : s.WellFormed) (hs' : s'.WellFormed) :
    s.shape = s'.shape ↔ Url.erasePart s.routeText = Url.erasePart s'.routeText := by
  have hcolon {text : List Char} (ht : (literal text).WellFormed) : text ≠ [':'] := by
    rintro rfl
    have hmark := ht.2 ':' List.mem_cons_self
    revert hmark
    decide
  have hcapture (name : List Char) : Url.erasePart (':' :: name) = [':'] := rfl
  cases s with
  | literal text =>
    cases s' with
    | literal text' => simp [shape, routeText, hs.erasePart_literal, hs'.erasePart_literal]
    | capture name' => simp [shape, routeText, hs.erasePart_literal, hcapture, hcolon hs]
  | capture name =>
    cases s' with
    | literal text' =>
      simp [shape, routeText, hs'.erasePart_literal, hcapture, Ne.symm (hcolon hs')]
    | capture name' => simp [shape, routeText, hcapture]

/-- The text of a well-formed segment is a part that a router can take. -/
theorem WellFormed.isRoutePart (hs : s.WellFormed) : Url.isRoutePart s.routeText = true := by
  cases s with
  | literal text =>
    have hplain : ∀ c ∈ text, (c != ':' && c != '*') = true := by
      intro c hc
      have hmark := hs.2 c hc
      simp only [isMark, Bool.or_eq_false_iff] at hmark
      simp [bne, hmark]
    rw [routeText, Url.isRoutePart]
    · exact List.all_eq_true.mpr hplain
    · rintro name rfl
      have hcolon := hplain ':' List.mem_cons_self
      revert hcolon
      decide
  | capture name =>
    have hplain : ∀ c ∈ name, (c != ':' && c != '*') = true := by
      intro c hc
      have hname := hs.2 c hc
      rw [Bool.and_eq_true, bne_iff_ne, bne_iff_ne]
      constructor <;> rintro rfl <;> revert hname <;> decide
    rw [routeText, Url.isRoutePart, Bool.and_eq_true, List.all_eq_true]
    exact ⟨by simpa using hs.1, hplain⟩

end Segment

namespace Endpoint

/-- The segments of an endpoint without the names of captures. -/
def shape (e : Endpoint) : List (Option (List Char)) :=
  e.segments.map Segment.shape

variable {d e : Endpoint}

/-- The parts of the route path of a built endpoint. -/
theorem IsBuilt.splitAt_routePath (he : e.IsBuilt) :
    Text.splitAt '/' e.routePath.toList = [] :: e.segments.map Segment.routeText := by
  rw [routePath, Url.routePath, String.toList_ofList]
  apply Url.splitAt_joinPath
  intro part hpart
  obtain ⟨s, hs, rfl⟩ := List.mem_map.mp hpart
  exact (he.wellFormed.2 s hs).notMem_routeText

/-- Route paths have the same shape exactly if the segments do. -/
theorem IsBuilt.shape_routePath_eq_iff (hd : d.IsBuilt) (he : e.IsBuilt) :
    Url.shape d.routePath = Url.shape e.routePath ↔ d.shape = e.shape := by
  have hsegments : ∀ (ds es : List Segment), (∀ s ∈ ds, s.WellFormed) →
      (∀ s ∈ es, s.WellFormed) → (ds.map (Url.erasePart ∘ Segment.routeText) =
        es.map (Url.erasePart ∘ Segment.routeText) ↔
          ds.map Segment.shape = es.map Segment.shape) := by
    intro ds
    induction ds with
    | nil => intro es _ _; cases es <;> simp
    | cons s ds ih =>
      intro es hds hes
      rcases es with _ | ⟨s', es⟩
      · simp
      · rw [List.forall_mem_cons] at hds hes
        simp only [List.map_cons, List.cons.injEq, ih es hds.2 hes.2, hds.1.shape_eq_iff hes.1,
          Function.comp_apply]
  rw [Url.shape_eq_iff, hd.splitAt_routePath, he.splitAt_routePath, List.map_cons, List.map_cons,
    List.cons_inj_right, List.map_map, List.map_map]
  exact hsegments _ _ hd.wellFormed.2 he.wellFormed.2

/-- The route path of a built endpoint is rooted. -/
theorem IsBuilt.head?_routePath (he : e.IsBuilt) : e.routePath.toList.head? = some '/' := by
  obtain ⟨s, rest, hsegments⟩ := List.exists_cons_of_ne_nil he.wellFormed.1
  rw [routePath, Url.routePath, String.toList_ofList, hsegments]
  rfl

/-- The route path of a built endpoint has parts that a router can take. -/
theorem IsBuilt.isRoutePart (he : e.IsBuilt) :
    ∀ part ∈ Text.splitAt '/' e.routePath.toList, Url.isRoutePart part = true := by
  rw [he.splitAt_routePath, List.forall_mem_cons]
  refine ⟨rfl, fun part hpart => ?_⟩
  obtain ⟨s, hs, rfl⟩ := List.mem_map.mp hpart
  exact (he.wellFormed.2 s hs).isRoutePart

end Endpoint

end QueryGateway
