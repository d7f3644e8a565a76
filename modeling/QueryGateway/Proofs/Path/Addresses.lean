import QueryGateway.Proofs.Path.Outcomes
import QueryGateway.Proofs.Path.Plain

/-!
# Addresses of nodes

The steps that lead to a node can be written down as an expression, which then denotes the node.
An index stands behind the current node, or directly behind the key before it. Behind the key of
a list it selects an item or fails, as long as the number that its digits denote is below the
limit; a larger number is no index at all, and the expression denotes the list.
-/

namespace QueryGateway.Path

/-! ## Names with an index -/

/-- A name with digits in brackets behind it. -/
def indexed (name digits : String) : String :=
  name ++ "[" ++ digits ++ "]"

section

variable {name digits : String} {i : Nat} {t node : Tree} {items : List Tree}

theorem toList_indexed (name digits : String) :
    (indexed name digits).toList = name.toList ++ ('[' :: digits.toList ++ [']']) := by
  simp [indexed]

/-- A name with an index is a chain if the name is one. -/
theorem IsChain.indexed (hname : IsChain name) (hcomma : ',' ∉ digits.toList) :
    IsChain (indexed name digits) := by
  obtain ⟨hne, hnameComma, htrimmed⟩ := hname
  have hends := Text.trim_eq_self_iff.mp htrimmed
  have hright : Text.trimRight name.toList = name.toList :=
    Text.trimRight_eq_self_iff.mpr hends.2
  have hlast : ∀ c ∈ ('[' :: digits.toList ++ [']']).getLast?, Text.isBlank c = false := by
    rw [List.getLast?_concat]
    rintro c ⟨⟩
    decide
  refine ⟨?_, ?_, ?_⟩ <;> rw [toList_indexed]
  · simp
  · simp [hnameComma, hcomma]
  · rw [Text.trim_append (by rw [htrimmed]; exact hne) hright (by simp) hlast, htrimmed]

/-- A name is the text of a segment without an index. -/
theorem writtenAs_name (hne : name.toList ≠ []) (hbracket : '[' ∉ name.toList) :
    (Segment.mk name none).WrittenAs name.toList := by
  rw [← read?_eq_some_iff, read?_of_notMem hne hbracket, String.ofList_toList]

/-- A name with a numeral in brackets is the text of a segment. It has an index if the number
is below the limit. -/
theorem writtenAs_indexed (hne : name.toList ≠ []) (hbracket : '[' ∉ name.toList)
    (hdigits : Number.IsNumeral digits.toList i) :
    (Segment.mk name (if i < indexLimit then some i else none)).WrittenAs
      (indexed name digits).toList := by
  rw [← read?_eq_some_iff, toList_indexed, read?_append hbracket (by simp),
    if_neg (by simpa using hne), readIndex?_of_isNumeral hdigits, String.ofList_toList]

/-- An expression of one segment has the value of that segment. -/
theorem get_eq_chainValue (t : Tree) {e : String} (he : IsChain e) (hdot : '.' ∉ e.toList) :
    get t e = chainValue t [e.toList] := by
  rw [get_of_isChain t he, Text.splitAt_of_notMem hdot, chainValue]

/-- A number in decimal digits. -/
theorem isNumeral_toString (i : Nat) : Number.IsNumeral (toString i).toList i := by
  simpa [toString, Nat.toList_repr] using Number.isNumeral_toDigits i

/-- No mark of path expressions stands in a name with a numeral but brackets. -/
theorem notMem_indexed {c : Char} (hname : c ∉ name.toList)
    (hdigits : Number.IsNumeral digits.toList i) (hdigit : Text.isAsciiDigit c = false)
    (hopen : c ≠ '[') (hclose : c ≠ ']') : c ∉ (indexed name digits).toList := by
  have hnumeral := hdigits.notMem hdigit
  rw [toList_indexed]
  simp [hname, hopen, hclose, hnumeral]

end

/-! ## Indexes behind the key of a list -/

/-- What an index is to give in a list: its item, unless that is empty, or a failure beyond the
end of the list. -/
def itemAt (items : List Tree) (i : Nat) : Except Failure (Option Tree) :=
  match items[i]? with
  | some item => .ok (nonEmpty item)
  | none => .error (.outOfRange i items.length)

/-- The name of a segment that does not stand for the current node is a key. -/
theorem nameSteps_of_ne {s : Segment} (hname : s.name ≠ currentNode) :
    s.nameSteps = [.key s.name] :=
  if_neg hname

section

variable {k digits : String} {i : Nat} {t : Tree} {items : List Tree}

/-- A plain key with a numeral in brackets is one segment. -/
theorem get_indexed_eq_chainValue (hk : IsPlain k) (hdigits : Number.IsNumeral digits.toList i)
    (t : Tree) : get t (indexed k digits) = chainValue t [(indexed k digits).toList] := by
  have hcomma : ',' ∉ digits.toList := hdigits.notMem (by decide)
  have hdot : '.' ∉ (indexed k digits).toList :=
    notMem_indexed hk.no_dot hdigits (by decide) (by decide) (by decide)
  exact get_eq_chainValue t (hk.toIsChain.indexed hcomma) hdot

/-- An index below the limit selects an item, or fails. -/
theorem get_indexed_of_lt (hk : IsPlain k) (hlist : t.field? k = some (.list items))
    (hdigits : Number.IsNumeral digits.toList i) (hi : i < indexLimit) :
    get t (indexed k digits) = itemAt items i := by
  have hwritten := writtenAs_indexed hk.ne_nil hk.no_bracket hdigits
  rw [if_pos hi] at hwritten
  have hname : t.descend? (Segment.mk k (some i)).nameSteps = some (.list items) := by
    rw [nameSteps_of_ne hk.ne_currentNode, Tree.descend?, Tree.child?, hlist]
    rfl
  rw [get_indexed_eq_chainValue hk hdigits, itemAt]
  by_cases hlength : i < items.length
  · have hitem : t.descend? (Segment.mk k (some i)).steps = some items[i] := by
      rw [Segment.steps, Tree.descend?_append, hname]
      simp [Tree.descend?, Tree.child?, hlength]
    rw [chainValue_of_leadsTo ((leadsTo_nil items[i]).cons hwritten hitem),
      List.getElem?_eq_getElem hlength]
  · have hnull : t ≠ .null := by
      rintro rfl
      cases hlist
    have hlength : items.length ≤ i := Nat.le_of_not_lt hlength
    have hmisstep : Misstep t (indexed k digits).toList (.outOfRange i items.length) :=
      ⟨hnull, _, i, _, hwritten, rfl, hname, .outOfRange rfl hlength⟩
    have hfails : FailsWith t [(indexed k digits).toList] (.outOfRange i items.length) :=
      ⟨[], _, [], t, rfl, leadsTo_nil t, hmisstep⟩
    rw [chainValue_of_failsWith hfails, List.getElem?_eq_none hlength]

/-- A number from the limit on is no index, and the list as a whole is denoted. -/
theorem get_indexed_of_le (hk : IsPlain k) (hlist : t.field? k = some (.list items))
    (hdigits : Number.IsNumeral digits.toList i) (hi : indexLimit ≤ i) :
    get t (indexed k digits) = .ok (nonEmpty (.list items)) := by
  have hwritten := writtenAs_indexed hk.ne_nil hk.no_bracket hdigits
  rw [if_neg (Nat.not_lt.mpr hi)] at hwritten
  have hnode : t.descend? (Segment.mk k none).steps = some (.list items) := by
    rw [Segment.steps, nameSteps_of_ne hk.ne_currentNode]
    simp [Tree.descend?, Tree.child?, hlist]
  rw [get_indexed_eq_chainValue hk hdigits]
  exact chainValue_of_leadsTo ((leadsTo_nil _).cons hwritten hnode)

/-- A list as a whole is not what an index in it gives. -/
theorem itemAt_ne (items : List Tree) (i : Nat) :
    itemAt items i ≠ .ok (nonEmpty (.list items)) := by
  rw [itemAt]
  split
  · next item hitem =>
    have hmem : item ∈ items := List.mem_of_getElem? hitem
    have hlist : nonEmpty (.list items) = some (.list items) :=
      if_neg (by simpa [Tree.isEmpty] using List.ne_nil_of_mem hmem)
    intro h
    rw [hlist] at h
    exact ne_list_of_mem hmem (eq_of_nonEmpty (Except.ok.inj h))
  · simp

/-- **Indexes are checked below the limit.** Digits in brackets behind the key of a list select
an item or fail exactly if the number is below the limit. Any other number is passed over. -/
theorem get_indexed_eq_itemAt_iff (hk : IsPlain k) (hlist : t.field? k = some (.list items))
    (hdigits : Number.IsNumeral digits.toList i) :
    (get t (indexed k digits) = itemAt items i ↔ i < indexLimit) ∧
      (indexLimit ≤ i → get t (indexed k digits) = .ok (nonEmpty (.list items))) := by
  refine ⟨⟨fun h => ?_, get_indexed_of_lt hk hlist hdigits⟩, get_indexed_of_le hk hlist hdigits⟩
  by_contra hi
  rw [get_indexed_of_le hk hlist hdigits (Nat.le_of_not_lt hi)] at h
  exact itemAt_ne items i h.symm

/-- An index with zeros before it, and one that is one too large. -/
theorem get_indexed_eq_itemAt_iff_padded :
    let t : Tree := .map [("k", .list [.text "x", .text ""])]
    let items : List Tree := [.text "x", .text ""]
    IsPlain "k" ∧ t.field? "k" = some (.list items) ∧ Number.IsNumeral "000".toList 0 ∧
      Number.IsNumeral "02".toList 2 ∧ get t (indexed "k" "000") = .ok (some (.text "x")) ∧
      get t (indexed "k" "02") = .error (.outOfRange 2 2) := by
  intro t items
  have hk : IsPlain "k" := by decide
  have hlist : t.field? "k" = some (.list items) := rfl
  have hzero : Number.IsNumeral "000".toList 0 := by decide
  have htwo : Number.IsNumeral "02".toList 2 := by decide
  have hfirst : get t (indexed "k" "000") = itemAt items 0 :=
    (get_indexed_eq_itemAt_iff hk hlist hzero).1.mpr (by decide)
  have hbeyond : get t (indexed "k" "02") = itemAt items 2 :=
    (get_indexed_eq_itemAt_iff hk hlist htwo).1.mpr (by decide)
  exact ⟨hk, hlist, hzero, htwo, hfirst, hbeyond⟩

/-- The least number that is passed over: the list comes out as a whole, not a failure. -/
theorem get_indexed_ne_itemAt :
    let t : Tree := .map [("k", .list [.text "x"])]
    let digits := "18446744073709551616"
    IsPlain "k" ∧ t.field? "k" = some (.list [.text "x"]) ∧
      Number.IsNumeral digits.toList 18446744073709551616 ∧
      get t (indexed "k" digits) = .ok (some (.list [.text "x"])) ∧
      get t (indexed "k" digits) ≠ itemAt [.text "x"] 18446744073709551616 := by
  intro t digits
  have hk : IsPlain "k" := by decide
  have hdigits : Number.IsNumeral digits.toList 18446744073709551616 := by decide
  have hlist : t.field? "k" = some (.list [.text "x"]) := rfl
  have hwhole : get t (indexed "k" digits) = .ok (some (.list [.text "x"])) :=
    get_indexed_of_le hk hlist hdigits (by decide)
  refine ⟨hk, hlist, hdigits, hwhole, ?_⟩
  rw [hwhole]
  exact (itemAt_ne [.text "x"] 18446744073709551616).symm

end

/-! ## Addresses -/

/-- The text of a step as a segment: a key as it stands, an index behind the current node. -/
def stepText : Tree.Step → String
  | .key name => name
  | .item i => indexed currentNode (toString i)

/-- The expression with the given segments; without any it denotes the current node. -/
def dotted : List String → String
  | [] => currentNode
  | text :: texts => ".".intercalate (text :: texts)

/-- The expression of the node that steps lead to. -/
def address (steps : List Tree.Step) : String :=
  dotted (steps.map stepText)

/-- The ways to write steps as segments. An index stands behind the current node, or directly
behind the key before it. -/
inductive Spells : List Tree.Step → List String → Prop
  | root : Spells [] []
  | step {steps : List Tree.Step} {texts : List String} (step : Tree.Step)
    (hrest : Spells steps texts) : Spells (step :: steps) (stepText step :: texts)
  | behindKey {steps : List Tree.Step} {texts : List String} (name : String) (i : Nat)
    (hrest : Spells steps texts) :
    Spells (.key name :: .item i :: steps) (indexed name (toString i) :: texts)

/-- Steps that can be written in an expression: their keys are plain, and their indexes below
the limit, as those of all lists in memory are. -/
structure Writable (steps : List Tree.Step) : Prop where
  plain_keys : ∀ name, .key name ∈ steps → IsPlain name
  small_indexes : ∀ i, .item i ∈ steps → i < indexLimit

section

variable {steps : List Tree.Step} {texts : List String} {t node : Tree} {text : String}

theorem Writable.tail {step : Tree.Step} (h : Writable (step :: steps)) : Writable steps :=
  ⟨fun name hname => h.plain_keys name (List.mem_cons_of_mem step hname),
    fun i hi => h.small_indexes i (List.mem_cons_of_mem step hi)⟩

/-- The usual way to write steps is one of them. -/
theorem spells_map_stepText (steps : List Tree.Step) : Spells steps (steps.map stepText) := by
  induction steps with
  | nil => exact .root
  | cons step steps ih => exact .step step ih

/-- An expression that is one segment with the given steps. -/
structure IsSegment (text : String) (steps : List Tree.Step) : Prop extends IsChain text where
  no_dot : '.' ∉ text.toList
  written : ∃ s : Segment, s.WrittenAs text.toList ∧ s.steps = steps

/-- A plain key is a segment. -/
theorem isSegment_key {name : String} (hname : IsPlain name) : IsSegment name [.key name] := by
  refine ⟨hname.toIsChain, hname.no_dot, _, writtenAs_name hname.ne_nil hname.no_bracket, ?_⟩
  rw [Segment.steps, nameSteps_of_ne hname.ne_currentNode]
  rfl

/-- A name with an index is a segment. -/
theorem isSegment_indexed {name : String} (hname : IsChain name) (hdot : '.' ∉ name.toList)
    (hbracket : '[' ∉ name.toList) {i : Nat} (hi : i < indexLimit) :
    IsSegment (indexed name (toString i)) ((Segment.mk name none).nameSteps ++ [.item i]) := by
  have hdigits := isNumeral_toString i
  have hwritten := writtenAs_indexed hname.ne_nil hbracket hdigits
  rw [if_pos hi] at hwritten
  exact ⟨hname.indexed (hdigits.notMem (by decide)),
    notMem_indexed hdot hdigits (by decide) (by decide) (by decide), _, hwritten, rfl⟩

/-- Steps are written as segments, whose steps they are. -/
theorem Spells.isSegment (h : Spells steps texts) (hsteps : Writable steps) :
    ∃ parts : List (List Tree.Step),
      List.Forall₂ IsSegment texts parts ∧ parts.flatten = steps := by
  induction h with
  | root => exact ⟨[], .nil, rfl⟩
  | @step steps texts step hrest ih =>
    obtain ⟨parts, hparts, hflatten⟩ := ih hsteps.tail
    have hsegment : IsSegment (stepText step) [step] := by
      cases step with
      | key name => exact isSegment_key (hsteps.plain_keys name List.mem_cons_self)
      | item i =>
        have hi := hsteps.small_indexes i List.mem_cons_self
        exact isSegment_indexed ⟨by decide, by decide, by decide⟩ (by decide) (by decide) hi
    exact ⟨[step] :: parts, .cons hsegment hparts, by simp [hflatten]⟩
  | @behindKey steps texts name i hrest ih =>
    obtain ⟨parts, hparts, hflatten⟩ := ih hsteps.tail.tail
    have hname := hsteps.plain_keys name List.mem_cons_self
    have hi := hsteps.small_indexes i (by simp)
    have hsegment : IsSegment (indexed name (toString i)) [.key name, .item i] := by
      have h := isSegment_indexed hname.toIsChain hname.no_dot hname.no_bracket hi
      rwa [nameSteps_of_ne hname.ne_currentNode] at h
    exact ⟨[.key name, .item i] :: parts, .cons hsegment hparts, by simp [hflatten]⟩

/-- Segments with a dot between them are one chain. -/
theorem dotted_cons_cons (first second : String) (texts : List String) :
    dotted (first :: second :: texts) = first ++ "." ++ dotted (second :: texts) := by
  rw [← String.toList_inj]
  simp [dotted, String.toList_intercalate]

/-- Segments are the chain of the expression that they are written in. -/
theorem isChain_dotted {parts : List (List Tree.Step)}
    (h : List.Forall₂ IsSegment (text :: texts) parts) :
    IsChain (dotted (text :: texts)) ∧
      Text.splitAt '.' (dotted (text :: texts)).toList = (text :: texts).map String.toList := by
  induction texts generalizing text parts with
  | nil =>
    cases h with
    | cons hsegment _ =>
      have hdotted : dotted [text] = text := rfl
      rw [hdotted]
      exact ⟨hsegment.toIsChain, Text.splitAt_of_notMem hsegment.no_dot⟩
  | cons next texts ih =>
    cases h with
    | cons hsegment hrest =>
      obtain ⟨hchain, hsplit⟩ := ih hrest
      rw [dotted_cons_cons]
      refine ⟨hsegment.toIsChain.dotted hchain, ?_⟩
      rw [splitAt_dotted, Text.splitAt_of_notMem hsegment.no_dot, hsplit]
      rfl

/-- Segments lead along their steps. -/
theorem leadsTo_of_isSegment {parts : List (List Tree.Step)}
    (h : List.Forall₂ IsSegment texts parts) (hnode : t.descend? parts.flatten = some node) :
    LeadsTo t (texts.map String.toList) node := by
  induction h generalizing t with
  | nil =>
    obtain rfl := Option.some.inj hnode
    exact leadsTo_nil t
  | @cons text part texts parts hsegment hrest ih =>
    obtain ⟨s, hs, rfl⟩ := hsegment.written
    rw [List.flatten_cons, Tree.descend?_append] at hnode
    obtain ⟨next, hnext, hlast⟩ := Option.bind_eq_some_iff.mp hnode
    exact (ih hlast).cons hs hnext

/-- However the steps to a node are written, the expression denotes the node. -/
theorem get_dotted_of_spells (hsteps : Writable steps) (hnode : t.descend? steps = some node)
    (h : Spells steps texts) : get t (dotted texts) = .ok (nonEmpty node) := by
  cases texts with
  | nil =>
    cases h
    obtain rfl := Option.some.inj hnode
    have hroot : (Segment.mk currentNode none).WrittenAs currentNode.toList :=
      writtenAs_name (by decide) (by decide)
    have hchain : IsChain currentNode := ⟨by decide, by decide, by decide⟩
    rw [dotted, get_eq_chainValue t hchain (by decide)]
    exact chainValue_of_leadsTo ((leadsTo_nil t).cons hroot rfl)
  | cons text texts =>
    obtain ⟨parts, hparts, rfl⟩ := h.isSegment hsteps
    obtain ⟨hchain, hsplit⟩ := isChain_dotted hparts
    rw [get_of_isChain t hchain, hsplit]
    exact chainValue_of_leadsTo (leadsTo_of_isSegment hparts hnode)

/-- **Every node is addressable.** The expression of the steps to a node denotes the node,
unless that is empty, and so do the other ways to write the steps. -/
theorem get_address (hsteps : Writable steps) (hnode : t.descend? steps = some node) :
    get t (address steps) = .ok (nonEmpty node) ∧
      ∀ texts, Spells steps texts → get t (dotted texts) = .ok (nonEmpty node) :=
  ⟨get_dotted_of_spells hsteps hnode (spells_map_stepText steps),
    fun _ => get_dotted_of_spells hsteps hnode⟩

/-- A node in a map in a list of lists, written in two ways. -/
theorem get_address_nested :
    let t : Tree := .map [("a b", .list [.list [.null, .map [("c", .bool true)]]])]
    let steps : List Tree.Step := [.key "a b", .item 0, .item 1, .key "c"]
    Writable steps ∧ t.descend? steps = some (.bool true) ∧
      address steps = "a b._[0]._[1].c" ∧ get t "a b._[0]._[1].c" = .ok (some (.bool true)) ∧
      get t "a b[0]._[1].c" = .ok (some (.bool true)) := by
  intro t steps
  have hsteps : Writable steps := by
    constructor
    · intro name hname
      obtain rfl | rfl : name = "a b" ∨ name = "c" := by simpa [steps] using hname
      · decide
      · decide
    · intro i hi
      obtain rfl | rfl : i = 0 ∨ i = 1 := by simpa [steps] using hi
      · decide
      · decide
  have hnode : t.descend? steps = some (.bool true) := rfl
  have hspells : Spells steps ["a b[0]", "_[1]", "c"] :=
    .behindKey "a b" 0 (.step (.item 1) (.step (.key "c") .root))
  obtain ⟨haddress, hother⟩ := get_address hsteps hnode
  exact ⟨hsteps, hnode, by decide, haddress, hother _ hspells⟩

end

end QueryGateway.Path
