import QueryGateway.Proofs.Template.Concatenation

/-!
# Well nested pieces

The pieces of a source form a body exactly if they are well nested: every branch that begins among
them is closed, with at most one closing action between its two parts, and nothing else is closed.
Pieces are well nested in one way at most, and the body is this way. All other pieces are refused,
for one of three reasons, each of which has a form of its own.
-/

namespace QueryGateway.Template

/-! ## Derivations -/

/-- How pieces are nested: a sequence of texts, outputs and closed branches, with or without a
second part. -/
inductive Nesting where
  | empty
  | text (s : List Char) (rest : Nesting)
  | output (e : Expression) (rest : Nesting)
  | branch (condition : Expression) (yes rest : Nesting)
  | branchElse (condition : Expression) (yes no rest : Nesting)

namespace Nesting

/-- The pieces that are nested in this way. -/
def items : Nesting → List Item
  | empty => []
  | text s rest => .text s :: rest.items
  | output e rest => .output e :: rest.items
  | branch condition yes rest => .condition condition :: (yes.items ++ .closer .done :: rest.items)
  | branchElse condition yes no rest =>
    .condition condition :: (yes.items ++ .closer .otherwise :: (no.items ++
      .closer .done :: rest.items))

/-- The body that has this nesting. -/
def body : Nesting → Body
  | empty => .nothing
  | text s rest => .text s rest.body
  | output e rest => .output e rest.body
  | branch condition yes rest => .branch condition yes.body .nothing rest.body
  | branchElse condition yes no rest => .branch condition yes.body no.body rest.body

end Nesting

/-- The beginning of a branch up to its part that is still open: the pieces before the branch, its
condition, and its first part if the open one is the second. -/
structure OpenBranch where
  before : Nesting
  condition : Expression
  first? : Option Nesting

/-- The pieces of the beginning of a branch. -/
def OpenBranch.items (b : OpenBranch) : List Item :=
  b.before.items ++ .condition b.condition ::
    match b.first? with
    | none => []
    | some yes => yes.items ++ [.closer .otherwise]

/-- Pieces that end inside of a branch. The first argument is the innermost branch that is open
there. -/
inductive EndsInside (b : OpenBranch) : List Item → Prop
  | here (d : Nesting) : EndsInside b (b.items ++ d.items)
  | outer (outer : OpenBranch) {items : List Item} (h : EndsInside b items) :
    EndsInside b (outer.items ++ items)

/-- Pieces that are refused, with the reason: a closing action where no branch is open, a branch
that is open at the end, or a second closing action between the parts of one branch. -/
inductive Refused : Failure → List Item → Prop
  | stray (d : Nesting) (k : Closer) (rest : List Item) :
    Refused (.stray k) (d.items ++ .closer k :: rest)
  | missingEnd {b : OpenBranch} {items : List Item} (h : EndsInside b items) :
    Refused .missingEnd items
  | secondElse {b : OpenBranch} {items : List Item} (h : EndsInside b items)
    (hfirst : b.first?.isSome = true) (rest : List Item) :
    Refused .secondElse (items ++ .closer .otherwise :: rest)

/-! ## What nested pieces give -/

/-- Nothing behind a body leaves it as it is. -/
theorem Body.append_nothing (b : Body) : b.append .nothing = b := by
  induction b with
  | nothing => rfl
  | text s rest ih => rw [append, ih]
  | output e rest ih => rw [append, ih]
  | branch condition yes no rest _ _ ih => rw [append, ih]

/-- Pieces that form a body on their own put it before what follows them. -/
theorem ofItems_append_of_whole {items : List Item} {b : Body}
    (h : Suffix.ofItems items = .whole b) (others : List Item) :
    Suffix.ofItems (items ++ others) = (Suffix.ofItems others).extend b.append := by
  have hcomplete : (Suffix.ofItems items).Complete := by
    rw [h]
    exact .whole b
  rw [Suffix.ofItems_append hcomplete, h]
  rfl

/-- Pieces that form a body on their own, before a closing action. -/
theorem ofItems_append_closer {items : List Item} {b : Body}
    (h : Suffix.ofItems items = .whole b) (k : Closer) (others : List Item) :
    Suffix.ofItems (items ++ .closer k :: others) = .closed b k (Suffix.ofItems others) := by
  have hcloser : Suffix.ofItems (.closer k :: others) =
      .closed .nothing k (Suffix.ofItems others) := rfl
  rw [ofItems_append_of_whole h, hcloser, Suffix.extend, Body.append_nothing]

namespace Nesting

/-- Nested pieces form their body. -/
theorem ofItems_items (d : Nesting) : Suffix.ofItems d.items = .whole d.body := by
  induction d with
  | empty => rfl
  | text s rest ih =>
    have hpush : Suffix.ofItems (text s rest).items =
        (Suffix.ofItems rest.items).push (.text s) := rfl
    rw [hpush, ih]
    rfl
  | output e rest ih =>
    have hpush : Suffix.ofItems (output e rest).items =
        (Suffix.ofItems rest.items).push (.output e) := rfl
    rw [hpush, ih]
    rfl
  | branch condition yes rest ihy ihr =>
    have hpush : Suffix.ofItems (branch condition yes rest).items =
        (Suffix.ofItems (yes.items ++ .closer .done :: rest.items)).push
          (.condition condition) := rfl
    rw [hpush, ofItems_append_closer ihy, ihr]
    rfl
  | branchElse condition yes no rest ihy ihn ihr =>
    have hpush : Suffix.ofItems (branchElse condition yes no rest).items =
        (Suffix.ofItems (yes.items ++ .closer .otherwise :: (no.items ++
          .closer .done :: rest.items))).push (.condition condition) := rfl
    rw [hpush, ofItems_append_closer ihy, ofItems_append_closer ihn, ihr]
    rfl

end Nesting

/-- What the beginning of a branch makes of what follows it. -/
theorem OpenBranch.ofItems_items_append (b : OpenBranch) (items : List Item) :
    Suffix.ofItems (b.items ++ items) =
      (match b.first? with
        | none => (Suffix.ofItems items).openBranch b.condition
        | some yes => (Suffix.ofItems items).openElse b.condition yes.body).extend
          b.before.body.append := by
  obtain ⟨before, condition, first?⟩ := b
  have hbefore (others : List Item) : Suffix.ofItems (before.items ++ .condition condition ::
      others) = ((Suffix.ofItems others).openBranch condition).extend before.body.append := by
    rw [ofItems_append_of_whole before.ofItems_items]
    rfl
  cases first? with
  | none =>
    simp only [OpenBranch.items, List.append_assoc, List.cons_append, List.nil_append]
    exact hbefore items
  | some yes =>
    simp only [OpenBranch.items, List.append_assoc, List.cons_append, List.nil_append]
    rw [hbefore, ofItems_append_closer yes.ofItems_items]
    rfl

/-- A failure inside of a branch is one of the pieces around it. -/
theorem OpenBranch.ofItems_items_append_of_failed (b : OpenBranch) {items : List Item}
    {e : Failure} (h : Suffix.ofItems items = .failed e) :
    Suffix.ofItems (b.items ++ items) = .failed e := by
  rw [b.ofItems_items_append, h]
  cases b.first? <;> rfl

/-- The innermost branch that is open decides what a source that ends inside of it gives, if it
gives a failure there. -/
theorem EndsInside.ofItems_append {b : OpenBranch} {items others : List Item} {e : Failure}
    (h : EndsInside b items)
    (hinner : ∀ d : Nesting, Suffix.ofItems (b.items ++ (d.items ++ others)) = .failed e) :
    Suffix.ofItems (items ++ others) = .failed e := by
  induction h with
  | here d =>
    rw [List.append_assoc]
    exact hinner d
  | outer outer _ ih =>
    rw [List.append_assoc]
    exact outer.ofItems_items_append_of_failed ih

/-- Pieces that are refused give the failure of their form. -/
theorem Refused.ofItems {e : Failure} {items : List Item} (h : Refused e items) :
    Body.ofItems items = .error e := by
  cases h with
  | stray d k rest =>
    rw [Body.ofItems, ofItems_append_closer d.ofItems_items]
    rfl
  | @missingEnd b items h =>
    have hfailed : Suffix.ofItems (items ++ []) = .failed .missingEnd := by
      refine h.ofItems_append fun d => ?_
      rw [b.ofItems_items_append, List.append_nil, d.ofItems_items]
      cases b.first? <;> rfl
    rw [List.append_nil] at hfailed
    rw [Body.ofItems, hfailed]
    rfl
  | @secondElse b items h hfirst rest =>
    have hfailed : Suffix.ofItems (items ++ .closer .otherwise :: rest) =
        .failed .secondElse := by
      refine h.ofItems_append fun d => ?_
      obtain ⟨yes, hyes⟩ := Option.isSome_iff_exists.mp hfirst
      rw [b.ofItems_items_append, hyes, ofItems_append_closer d.ofItems_items]
      rfl
    rw [Body.ofItems, hfailed]
    rfl

/-! ## What the pieces of a suffix are -/

/-- What some pieces give says how they are nested, up to the first closing action of no branch
among them, and so on, or why they are refused. -/
inductive Suffix.Describes : Suffix → List Item → Prop
  | whole (d : Nesting) : Describes (.whole d.body) d.items
  | closed (d : Nesting) (k : Closer) {rest : Suffix} {items : List Item}
    (hrest : Describes rest items) :
    Describes (.closed d.body k rest) (d.items ++ .closer k :: items)
  | missingEnd {b : OpenBranch} {items : List Item} (h : EndsInside b items) :
    Describes (.failed .missingEnd) items
  | secondElse {b : OpenBranch} {items : List Item} (h : EndsInside b items)
    (hfirst : b.first?.isSome = true) (rest : List Item) :
    Describes (.failed .secondElse) (items ++ .closer .otherwise :: rest)

/-- A change that puts pieces before nested ones. -/
structure Nesting.Prepends (f : Nesting → Nesting) (front : List Item) (g : Body → Body) :
    Prop where
  items : ∀ d, (f d).items = front ++ d.items
  body : ∀ d, (f d).body = g d.body

/-- Pieces that end inside of a branch do so behind other nested pieces. -/
theorem EndsInside.prepend {f : Nesting → Nesting} {front : List Item} {g : Body → Body}
    (hf : Nesting.Prepends f front g) {b : OpenBranch} {items : List Item}
    (h : EndsInside b items) :
    ∃ b', b'.first? = b.first? ∧ EndsInside b' (front ++ items) := by
  have hitems (b : OpenBranch) :
      front ++ b.items = OpenBranch.items { b with before := f b.before } := by
    simp only [OpenBranch.items, hf.items, List.append_assoc]
  cases h with
  | here d =>
    refine ⟨{ b with before := f b.before }, rfl, ?_⟩
    rw [← List.append_assoc, hitems]
    exact .here d
  | outer outer h =>
    refine ⟨b, rfl, ?_⟩
    rw [← List.append_assoc, hitems]
    exact .outer _ h

namespace Suffix

variable {s : Suffix} {items : List Item}

/-- Nested pieces before the pieces of a suffix extend it. -/
theorem Describes.extend {f : Nesting → Nesting} {front : List Item} {g : Body → Body}
    (hf : Nesting.Prepends f front g) (h : s.Describes items) :
    (s.extend g).Describes (front ++ items) := by
  cases h with
  | whole d =>
    rw [Suffix.extend, ← hf.items, ← hf.body]
    exact .whole (f d)
  | closed d k hrest =>
    rw [Suffix.extend, ← List.append_assoc, ← hf.items, ← hf.body]
    exact .closed (f d) k hrest
  | missingEnd h =>
    obtain ⟨b', -, hinside⟩ := h.prepend hf
    exact .missingEnd hinside
  | secondElse h hfirst rest =>
    obtain ⟨b', hb', hinside⟩ := h.prepend hf
    rw [← List.append_assoc]
    exact .secondElse hinside (hb' ▸ hfirst) rest

/-- The beginning of a branch before pieces that are refused. -/
theorem Describes.outer {e : Failure} (h : (failed e).Describes items) (outer : OpenBranch) :
    (failed e).Describes (outer.items ++ items) := by
  cases h with
  | missingEnd h => exact .missingEnd (.outer outer h)
  | secondElse h hfirst rest =>
    rw [← List.append_assoc]
    exact .secondElse (.outer outer h) hfirst rest

/-- A condition and a first part before the pieces of a suffix. -/
theorem Describes.openElse (condition : Expression) (yes : Nesting) (h : s.Describes items) :
    (s.openElse condition yes.body).Describes
      (.condition condition :: (yes.items ++ .closer .otherwise :: items)) := by
  let b : OpenBranch := ⟨.empty, condition, some yes⟩
  have hitems : .condition condition :: (yes.items ++ .closer .otherwise :: items) =
      b.items ++ items := by simp [b, OpenBranch.items, Nesting.items]
  cases s with
  | whole body =>
    obtain ⟨d⟩ := h
    rw [hitems]
    exact .missingEnd (.here d)
  | closed body k rest =>
    obtain _ | ⟨no, _, hrest⟩ := h
    cases k with
    | done =>
      have hprepends : Nesting.Prepends (.branchElse condition yes no)
          (.condition condition :: (yes.items ++ .closer .otherwise :: (no.items ++
            [.closer .done]))) (.branch condition yes.body no.body) :=
        ⟨fun d => by simp [Nesting.items], fun d => rfl⟩
      simpa [Suffix.openElse] using hrest.extend hprepends
    | otherwise =>
      rw [hitems, ← List.append_assoc]
      exact .secondElse (.here no) rfl _
  | failed e =>
    rw [hitems]
    exact h.outer b

/-- A condition before the pieces of a suffix. -/
theorem Describes.openBranch (condition : Expression) (h : s.Describes items) :
    (s.openBranch condition).Describes (.condition condition :: items) := by
  let b : OpenBranch := ⟨.empty, condition, none⟩
  have hitems : .condition condition :: items = b.items ++ items := rfl
  cases s with
  | whole body =>
    obtain ⟨d⟩ := h
    rw [hitems]
    exact .missingEnd (.here d)
  | closed body k rest =>
    obtain _ | ⟨yes, _, hrest⟩ := h
    cases k with
    | done =>
      have hprepends : Nesting.Prepends (.branch condition yes)
          (.condition condition :: (yes.items ++ [.closer .done]))
          (.branch condition yes.body .nothing) :=
        ⟨fun d => by simp [Nesting.items], fun d => rfl⟩
      simpa [Suffix.openBranch] using hrest.extend hprepends
    | otherwise => exact hrest.openElse condition yes
  | failed e =>
    rw [hitems]
    exact h.outer b

/-- A piece before the pieces of a suffix. -/
theorem Describes.push (item : Item) (h : s.Describes items) :
    (s.push item).Describes (item :: items) := by
  cases item with
  | text t =>
    have hprepends : Nesting.Prepends (.text t) [.text t] (.text t) :=
      ⟨fun _ => rfl, fun _ => rfl⟩
    exact h.extend hprepends
  | output e =>
    have hprepends : Nesting.Prepends (.output e) [.output e] (.output e) :=
      ⟨fun _ => rfl, fun _ => rfl⟩
    exact h.extend hprepends
  | condition e => exact h.openBranch e
  | closer k => exact .closed .empty k h

/-- What some pieces give describes them. -/
theorem describes_ofItems (items : List Item) : (ofItems items).Describes items := by
  induction items with
  | nil => exact .whole .empty
  | cons item items ih => exact ih.push item

/-- Pieces that form a body are nested. -/
theorem Describes.toBody_ok {body : Body} (h : s.Describes items) (hbody : s.toBody = .ok body) :
    ∃ d : Nesting, d.items = items ∧ d.body = body := by
  cases h with
  | whole d => exact ⟨d, rfl, Except.ok.inj hbody⟩
  | _ => cases hbody

/-- Pieces that form no body have one of the forms that are refused. -/
theorem Describes.toBody_error {e : Failure} (h : s.Describes items)
    (hbody : s.toBody = .error e) : Refused e items := by
  cases h with
  | whole d => cases hbody
  | closed d k hrest =>
    obtain rfl := Except.error.inj hbody
    exact .stray d k _
  | missingEnd h =>
    obtain rfl := Except.error.inj hbody
    exact .missingEnd h
  | secondElse h hfirst rest =>
    obtain rfl := Except.error.inj hbody
    exact .secondElse h hfirst rest

end Suffix

/-! ## One way to nest pieces -/

/-- Pieces that begin with a closing action, if there are any. -/
def BeginsClosed (items : List Item) : Prop :=
  ∀ item ∈ items.head?, ∃ k, item = .closer k

theorem beginsClosed_closer (k : Closer) (items : List Item) :
    BeginsClosed (.closer k :: items) := by
  rintro item ⟨⟩
  exact ⟨k, rfl⟩

/-- How pieces are nested can be read off them up to the first closing action of no branch. -/
theorem Nesting.items_append_inj {d d' : Nesting} {tail tail' : List Item}
    (htail : BeginsClosed tail) (htail' : BeginsClosed tail')
    (h : d.items ++ tail = d'.items ++ tail') : d = d' ∧ tail = tail' := by
  have habsurd {item : Item} {items tail : List Item} (hitem : ∀ k, item ≠ .closer k)
      (htail : BeginsClosed tail) : tail ≠ item :: items := by
    rintro rfl
    obtain ⟨k, hk⟩ := htail item rfl
    exact hitem k hk
  induction d generalizing d' tail tail' with
  | empty =>
    cases d' with
    | empty => exact ⟨rfl, h⟩
    | _ => exact absurd h (habsurd (by simp) htail)
  | text s rest ih =>
    cases d' with
    | empty => exact absurd h.symm (habsurd (by simp) htail')
    | text s' rest' =>
      obtain ⟨hitem, hrest⟩ := List.cons.inj h
      obtain ⟨rfl, rfl⟩ := ih htail htail' hrest
      exact ⟨congrArg (Nesting.text · rest) (Item.text.inj hitem), rfl⟩
    | _ => simp [items] at h
  | output e rest ih =>
    cases d' with
    | empty => exact absurd h.symm (habsurd (by simp) htail')
    | output e' rest' =>
      obtain ⟨hitem, hrest⟩ := List.cons.inj h
      obtain ⟨rfl, rfl⟩ := ih htail htail' hrest
      exact ⟨congrArg (Nesting.output · rest) (Item.output.inj hitem), rfl⟩
    | _ => simp [items] at h
  | branch condition yes rest ihy ihr =>
    cases d' with
    | empty => exact absurd h.symm (habsurd (by simp) htail')
    | branch condition' yes' rest' =>
      simp only [items, List.cons_append, List.append_assoc, List.cons.injEq,
        Item.condition.injEq] at h
      obtain ⟨rfl, h⟩ := h
      obtain ⟨rfl, hclosed⟩ := ihy (beginsClosed_closer _ _) (beginsClosed_closer _ _) h
      obtain ⟨rfl, rfl⟩ := ihr htail htail' (List.cons.inj hclosed).2
      exact ⟨rfl, rfl⟩
    | branchElse condition' yes' no' rest' =>
      simp only [items, List.cons_append, List.append_assoc, List.cons.injEq] at h
      obtain ⟨-, hclosed⟩ := ihy (beginsClosed_closer _ _) (beginsClosed_closer _ _) h.2
      simp at hclosed
    | _ => simp [items] at h
  | branchElse condition yes no rest ihy ihn ihr =>
    cases d' with
    | empty => exact absurd h.symm (habsurd (by simp) htail')
    | branch condition' yes' rest' =>
      simp only [items, List.cons_append, List.append_assoc, List.cons.injEq] at h
      obtain ⟨-, hclosed⟩ := ihy (beginsClosed_closer _ _) (beginsClosed_closer _ _) h.2
      simp at hclosed
    | branchElse condition' yes' no' rest' =>
      simp only [items, List.cons_append, List.append_assoc, List.cons.injEq,
        Item.condition.injEq] at h
      obtain ⟨rfl, h⟩ := h
      obtain ⟨rfl, hsecond⟩ := ihy (beginsClosed_closer _ _) (beginsClosed_closer _ _) h
      obtain ⟨rfl, hclosed⟩ := ihn (beginsClosed_closer _ _) (beginsClosed_closer _ _)
        (List.cons.inj hsecond).2
      obtain ⟨rfl, rfl⟩ := ihr htail htail' (List.cons.inj hclosed).2
      exact ⟨rfl, rfl⟩
    | _ => simp [items] at h

/-- Pieces can be nested in one way at most. -/
theorem Nesting.items_inj {d d' : Nesting} (h : d.items = d'.items) : d = d' := by
  have hnil : BeginsClosed [] := by rintro item ⟨⟩
  exact (items_append_inj hnil hnil (congrArg (· ++ []) h)).1

/-! ## Where pieces stand -/

/-- A part of a branch: the condition of the branch, and whether this is its second part. -/
structure Part where
  condition : Expression
  second : Bool

/-- The texts, outputs and conditions among some pieces in order, each with the parts of branches
that it is written in, the innermost first. -/
def placed : List Part → List Item → List (List Part × Item)
  | _, [] => []
  | parts, .text s :: items => (parts, .text s) :: placed parts items
  | parts, .output e :: items => (parts, .output e) :: placed parts items
  | parts, .condition e :: items => (parts, .condition e) :: placed (⟨e, false⟩ :: parts) items
  | part :: parts, .closer .otherwise :: items => placed (⟨part.condition, true⟩ :: parts) items
  | _ :: parts, .closer .done :: items => placed parts items
  | [], .closer _ :: items => placed [] items

/-- The texts, outputs and conditions of a body in order, each with the parts of branches around
it, the innermost first. -/
def Body.placed (parts : List Part) : Body → List (List Part × Item)
  | nothing => []
  | text s rest => (parts, .text s) :: rest.placed parts
  | output e rest => (parts, .output e) :: rest.placed parts
  | branch condition yes no rest =>
    (parts, .condition condition) :: (yes.placed (⟨condition, false⟩ :: parts) ++
      no.placed (⟨condition, true⟩ :: parts) ++ rest.placed parts)

/-- Nested pieces stand where the body has them. -/
theorem Nesting.placed_items_append (d : Nesting) (parts : List Part) (tail : List Item) :
    Template.placed parts (d.items ++ tail) =
      d.body.placed parts ++ Template.placed parts tail := by
  induction d generalizing parts tail with
  | empty => rfl
  | text s rest ih => simp [items, body, Template.placed, Body.placed, ih]
  | output e rest ih => simp [items, body, Template.placed, Body.placed, ih]
  | branch condition yes rest ihy ihr =>
    simp [items, body, Template.placed, Body.placed, ihy, ihr]
  | branchElse condition yes no rest ihy ihn ihr =>
    simp [items, body, Template.placed, Body.placed, ihy, ihn, ihr]

/-! ## Assembling -/

/-- Pieces are assembled by how they are nested. -/
structure AssembledByNesting (items : List Item) : Prop where
  /-- They form a body exactly if they can be nested, and the body is this nesting. -/
  accepted : ∀ body, Body.ofItems items = .ok body ↔
    ∃ d : Nesting, d.items = items ∧ d.body = body
  /-- They can be nested in one way at most. -/
  unique : ∀ d d' : Nesting, d.items = items → d'.items = items → d = d'
  /-- The body has each text, output and condition where it is written. -/
  kept : ∀ body, Body.ofItems items = .ok body → body.placed [] = placed [] items
  /-- They are refused exactly for a stray closing action, for a branch that is not closed, or for
  a second closing action between the parts of one branch. -/
  refused : ∀ e, Body.ofItems items = .error e ↔ Refused e items
  /-- A source of these pieces is a template with this body, or fails for this reason. -/
  compiled : ∀ name source, scan false source.toList = .ok items →
    compile name source = (Body.ofItems items).map fun body => ⟨name, body⟩

/-- **Well nested pieces.** Whatever the pieces are, they are assembled by how they are nested. -/
theorem assembled_by_nesting (items : List Item) : AssembledByNesting items := by
  have haccepted (body : Body) : Body.ofItems items = .ok body ↔
      ∃ d : Nesting, d.items = items ∧ d.body = body := by
    constructor
    · exact (Suffix.describes_ofItems items).toBody_ok
    · rintro ⟨d, rfl, rfl⟩
      rw [Body.ofItems, d.ofItems_items]
      rfl
  have hkept (body : Body) (hbody : Body.ofItems items = .ok body) :
      body.placed [] = placed [] items := by
    obtain ⟨d, rfl, rfl⟩ := (haccepted body).mp hbody
    have hplaced := d.placed_items_append [] []
    rw [List.append_nil] at hplaced
    simpa [placed] using hplaced.symm
  refine ⟨haccepted, fun d d' hd hd' => ?_, hkept, fun e => ?_, fun name source hscan => ?_⟩
  · exact Nesting.items_inj (hd.trans hd'.symm)
  · exact ⟨(Suffix.describes_ofItems items).toBody_error, Refused.ofItems⟩
  · rw [compile, hscan]
    cases h : Body.ofItems items <;> simp [bind, Except.bind, h, Except.map]

end QueryGateway.Template
