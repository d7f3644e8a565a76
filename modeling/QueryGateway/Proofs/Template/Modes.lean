import QueryGateway.Proofs.Template.Closing
import QueryGateway.Proofs.Text.Utf8

/-!
# Modes of the search for closing braces

Whether braces close an action is a matter of the literals before them. What the search remembers
of the text before a place is one of four modes: it is outside of literals, inside a literal of
either kind, or behind a backslash. The modes can be followed byte by byte as well, since no byte
of a character beyond ASCII means anything, and so the braces have an offset in the UTF-8 form.
-/

namespace QueryGateway.Template

/-- What a scanner remembers of a text: whether it ends outside of literals, in a literal in double
quotes, there behind a backslash, or in a raw literal. -/
inductive Mode where
  | outside
  | quoted
  | escaped
  | raw
  deriving DecidableEq, Repr

namespace Mode

/-- The mode behind a character. -/
def next : Mode → Char → Mode
  | outside, c => if c = '"' then quoted else if c = '\x60' then raw else outside
  | quoted, c => if c = '\\' then escaped else if c = '"' then outside else quoted
  | escaped, _ => quoted
  | raw, c => if c = '\x60' then outside else raw

/-- The mode behind a text. -/
def after (m : Mode) (s : List Char) : Mode := s.foldl next m

@[simp] theorem after_nil (m : Mode) : m.after [] = m := rfl

@[simp] theorem after_cons (m : Mode) (c : Char) (s : List Char) :
    m.after (c :: s) = (m.next c).after s := rfl

@[simp] theorem after_append (m : Mode) (s t : List Char) :
    m.after (s ++ t) = (m.after s).after t :=
  List.foldl_append

/-- Only a backslash in double quotes takes a character along. -/
theorem next_eq_escaped_iff {m : Mode} {c : Char} :
    m.next c = .escaped ↔ m = .quoted ∧ c = '\\' := by
  cases m <;> grind [next]

/-- Behind a backslash that takes a character along, a literal in double quotes is open. -/
theorem exists_of_after_eq_escaped {p : List Char} (hp : Mode.outside.after p = .escaped) :
    ∃ q, p = q ++ ['\\'] ∧ Mode.outside.after q = .quoted := by
  rcases List.eq_nil_or_concat p with rfl | ⟨q, c, rfl⟩
  · cases hp
  · rw [List.concat_eq_append] at hp ⊢
    rw [after_append, after_cons, after_nil, next_eq_escaped_iff] at hp
    obtain ⟨hq, rfl⟩ := hp
    exact ⟨q, rfl, hq⟩

section

variable {s : List Char} (hs : ∀ c ∈ s, c ≠ '"' ∧ c ≠ '\x60')

include hs

/-- A text without marks does not begin a literal. -/
theorem after_of_unmarked : Mode.outside.after s = .outside := by
  induction s with
  | nil => rfl
  | cons c s ih =>
    obtain ⟨⟨hquote, hback⟩, hs⟩ := List.forall_mem_cons.mp hs
    rw [after_cons, next, if_neg hquote, if_neg hback, ih hs]

/-- Nor does it end one. -/
theorem eq_outside_of_unmarked {m : Mode} (hm : m.after s = .outside) : m = .outside := by
  induction s generalizing m with
  | nil => exact hm
  | cons c s ih =>
    obtain ⟨⟨hquote, hback⟩, hs⟩ := List.forall_mem_cons.mp hs
    have hnext : m.next c = .outside := ih hs hm
    cases m with
    | outside => rfl
    | quoted =>
      rw [next, if_neg hquote] at hnext
      split at hnext <;> cases hnext
    | escaped => cases hnext
    | raw =>
      rw [next, if_neg hback] at hnext
      cases hnext

end

end Mode

/-- The search from a mode. Behind a backslash the next character is passed over. -/
def closeFrom : Mode → List Char → Option (List Char × List Char)
  | .outside, s => findClose none s
  | .quoted, s => findClose (some '"') s
  | .raw, s => findClose (some '\x60') s
  | .escaped, [] => none
  | .escaped, c :: s => (findClose (some '"') s).map fun (body, after) => (c :: body, after)

/-- In an empty text nothing is found. -/
theorem closeFrom_nil (m : Mode) : closeFrom m [] = none := by
  cases m <;> simp [closeFrom, findClose]

/-- Closing braces outside of literals are found. -/
theorem closeFrom_closing (s : List Char) :
    closeFrom .outside ('\x7d' :: '\x7d' :: s) = some ([], s) := by
  simp [closeFrom, findClose]

/-- Any other character is passed over and takes the search to the next mode. -/
theorem closeFrom_cons {m : Mode} {c : Char} {s : List Char}
    (h : ¬ (m = .outside ∧ c = '\x7d' ∧ s.head? = some '\x7d')) :
    closeFrom m (c :: s) =
      (closeFrom (m.next c) s).map fun (body, after) => (c :: body, after) := by
  cases m with
  | outside =>
    have hopen : ¬ (c = '\x7d' ∧ s.head? = some '\x7d') := fun hclose => h ⟨rfl, hclose⟩
    rw [closeFrom, findClose, if_neg (by simpa using hopen), Mode.next]
    by_cases hquote : c = '"'
    · subst hquote
      rfl
    · by_cases hback : c = '\x60'
      · subst hback
        rfl
      · simp [hquote, hback, closeFrom]
  | quoted =>
    rw [closeFrom, findClose.eq_def, Mode.next]
    by_cases hslash : c = '\\'
    · subst hslash
      cases s with
      | nil => rfl
      | cons d s => simp [closeFrom, Function.comp_def]
    · by_cases hquote : c = '"'
      · subst hquote
        simp [closeFrom]
      · simp [hslash, hquote, closeFrom]
  | escaped => rfl
  | raw =>
    rw [closeFrom, findClose.eq_def, Mode.next]
    by_cases hback : c = '\x60'
    · subst hback
      simp [closeFrom]
    · simp [hback, closeFrom]

/-! ## Prefixes of actions -/

/-- What can be open behind a text: no literal, one in double quotes, or a raw one. -/
def quotes : List (Option Char) := [none, some '"', some '\x60']

theorem mem_quotes_iff {quote : Option Char} :
    quote ∈ quotes ↔ quote = none ∨ quote = some '"' ∨ quote = some '\x60' := by
  simp [quotes]

/-- The mode with a given literal open. -/
def Mode.ofQuote : Option Char → Mode
  | none => outside
  | some mark => if mark = '"' then quoted else raw

theorem Mode.ofQuote_inj {quote other : Option Char} (hquote : quote ∈ quotes)
    (hother : other ∈ quotes) : ofQuote quote = ofQuote other ↔ quote = other := by
  rcases mem_quotes_iff.mp hquote with rfl | rfl | rfl <;>
    rcases mem_quotes_iff.mp hother with rfl | rfl | rfl <;> decide

/-- The mode with a literal open does not stand behind a backslash. -/
theorem Mode.ofQuote_ne_escaped (quote : Option Char) : ofQuote quote ≠ .escaped := by
  cases quote with
  | none => decide
  | some mark =>
    rw [ofQuote]
    split <;> decide

/-- In each mode it is known which literal is open, except behind a backslash. -/
theorem Mode.eq_escaped_or_exists (m : Mode) :
    m = .escaped ∨ ∃ quote ∈ quotes, m = .ofQuote quote := by
  cases m with
  | outside => exact .inr ⟨none, by decide, rfl⟩
  | quoted => exact .inr ⟨some '"', by decide, rfl⟩
  | raw => exact .inr ⟨some '\x60', by decide, rfl⟩
  | escaped => exact .inl rfl

/-- Whether the search for closing braces goes on behind a text as if it began there with a given
literal open. -/
def FindsFrom (quote : Option Char) (p : List Char) : Prop :=
  ∀ r, r.head? ≠ some '\x7d' →
    findClose none (p ++ r) = (findClose quote r).map fun (body, after) => (p ++ body, after)

theorem closeFrom_ofQuote {quote : Option Char} (hquote : quote ∈ quotes) (s : List Char) :
    closeFrom (.ofQuote quote) s = findClose quote s := by
  rcases mem_quotes_iff.mp hquote with rfl | rfl | rfl <;> rfl

/-- The closing braces are found outside of literals. -/
theorem after_of_closeFrom {m : Mode} {s body rest : List Char}
    (hfind : closeFrom m s = some (body, rest)) : m.after body = .outside := by
  induction s generalizing m body with
  | nil =>
    rw [closeFrom_nil] at hfind
    cases hfind
  | cons c s ih =>
    by_cases hclose : m = .outside ∧ c = '\x7d' ∧ s.head? = some '\x7d'
    · obtain ⟨rfl, rfl, hhead⟩ := hclose
      obtain ⟨s, rfl⟩ := List.head?_eq_some_iff.mp hhead
      rw [closeFrom_closing] at hfind
      obtain ⟨rfl, -⟩ := Prod.mk.inj (Option.some.inj hfind)
      rfl
    · rw [closeFrom_cons hclose] at hfind
      obtain ⟨⟨front, back⟩, hrest, hparts⟩ := Option.map_eq_some_iff.mp hfind
      obtain ⟨rfl, rfl⟩ := Prod.mk.inj hparts
      have hafter := ih hrest
      exact hafter

/-- The beginning of an action is passed over, whatever comes behind it. -/
theorem closeFrom_append {m : Mode} {p s body rest : List Char}
    (hfind : closeFrom m (p ++ s) = some (p ++ body, rest)) {r : List Char}
    (hr : r.head? ≠ some '\x7d') :
    closeFrom m (p ++ r) =
      (closeFrom (m.after p) r).map fun (body, after) => (p ++ body, after) := by
  induction p generalizing m with
  | nil => simp
  | cons c p ih =>
    have hopen : ¬ (m = .outside ∧ c = '\x7d' ∧ (p ++ s).head? = some '\x7d') := by
      rintro ⟨rfl, rfl, hhead⟩
      obtain ⟨t, ht⟩ := List.head?_eq_some_iff.mp hhead
      rw [List.cons_append, ht, closeFrom_closing] at hfind
      cases hfind
    have hopen' : ¬ (m = .outside ∧ c = '\x7d' ∧ (p ++ r).head? = some '\x7d') := by
      rintro ⟨rfl, rfl, hhead⟩
      cases p with
      | nil => exact hr hhead
      | cons d p => exact hopen ⟨rfl, rfl, hhead⟩
    rw [List.cons_append, closeFrom_cons hopen] at hfind
    obtain ⟨⟨front, back⟩, hrest, hparts⟩ := Option.map_eq_some_iff.mp hfind
    obtain ⟨hfront, rfl⟩ := Prod.mk.inj hparts
    obtain rfl := (List.cons.inj hfront).2
    rw [List.cons_append, closeFrom_cons hopen', ih hrest, Option.map_map]
    rfl

/-- The search goes on behind the beginning of an action as its mode says. -/
theorem findsFrom_iff {p s body rest : List Char}
    (hfind : findClose none (p ++ s) = some (p ++ body, rest)) {quote : Option Char}
    (hquote : quote ∈ quotes) : FindsFrom quote p ↔ Mode.outside.after p = .ofQuote quote := by
  have happend {r : List Char} (hr : r.head? ≠ some '\x7d') : findClose none (p ++ r) =
      (closeFrom (Mode.outside.after p) r).map fun (body, after) => (p ++ body, after) :=
    closeFrom_append (m := .outside) hfind hr
  constructor
  · intro hfinds
    -- behind the mark that closes the literal, braces are found in this mode only
    let probe := quote.toList ++ ['x', '\x7d', '\x7d']
    have hhead : probe.head? ≠ some '\x7d' := by
      rcases mem_quotes_iff.mp hquote with rfl | rfl | rfl <;> decide
    have hsome : (closeFrom (Mode.outside.after p) probe).isSome =
        (findClose quote probe).isSome := by
      have hsame := (happend hhead).symm.trans (hfinds probe hhead)
      simpa using congrArg Option.isSome hsame
    revert hsome
    rcases mem_quotes_iff.mp hquote with rfl | rfl | rfl <;> cases Mode.outside.after p <;> decide
  · intro hmode r hr
    rw [happend hr, hmode, closeFrom_ofQuote hquote]

/-! ## Offsets of bytes -/

/-- The offset of the closing braces in a sequence of bytes, if there are any. A byte means what
the character with its number means. -/
def closeOffset : Mode → Bytes → Option Nat
  | _, [] => none
  | m, b :: rest =>
    if m = .outside ∧ b = 0x7D ∧ rest.head? = some 0x7D then some 0
    else (closeOffset (m.next (Char.ofNat b.toNat)) rest).map (· + 1)

/-- The mode behind a character that means nothing. -/
def Mode.skip : Mode → Mode
  | escaped => quoted
  | m => m

/-- A character beyond ASCII means nothing. -/
theorem Mode.next_of_le {c : Char} (hc : 0x80 ≤ c.toNat) (m : Mode) : m.next c = m.skip := by
  have hne {d : Char} (hd : d.toNat < 0x80) : c ≠ d := by
    rintro rfl
    omega
  cases m <;> simp [next, skip, hne]

/-- Nor does a byte with its high bit set. -/
theorem closeOffset_cons_of_le {b : UInt8} (hb : 0x80 ≤ b.toNat) (m : Mode) (rest : Bytes) :
    closeOffset m (b :: rest) = (closeOffset m.skip rest).map (· + 1) := by
  have hbrace : b ≠ 0x7D := by
    rintro rfl
    revert hb
    decide
  have hchar : 0x80 ≤ (Char.ofNat b.toNat).toNat := by
    have hlt : b.toNat < 256 := b.toNat_lt
    rw [Char.ofNat, dif_pos (.inl (by omega))]
    exact hb
  rw [closeOffset, if_neg (fun h => hbrace h.2.1), Mode.next_of_le hchar]

/-- Bytes with their high bit set are passed over. -/
theorem closeOffset_append_of_le {bytes : Bytes} (hbytes : ∀ b ∈ bytes, 0x80 ≤ b.toNat) {m : Mode}
    (hm : m.skip = m) (rest : Bytes) :
    closeOffset m (bytes ++ rest) = (closeOffset m rest).map (· + bytes.length) := by
  induction bytes with
  | nil => simp
  | cons b bytes ih =>
    obtain ⟨hb, hbytes⟩ := List.forall_mem_cons.mp hbytes
    rw [List.cons_append, closeOffset_cons_of_le hb, hm, ih hbytes, Option.map_map]
    rfl

/-- A closing brace is one byte, and no other character begins with it. -/
theorem head?_encode_eq_brace_iff {s : List Char} :
    (Utf8.encode s).head? = some 0x7D ↔ s.head? = some '\x7d' := by
  have htest : Utf8.IsAsciiTest (· == 0x7D) (· == '\x7d') := by
    refine ⟨by decide, fun b hb => ?_, fun c hc => ?_⟩
    · rw [beq_eq_false_iff_ne]
      rintro rfl
      revert hb
      decide
    · rw [beq_eq_false_iff_ne]
      rintro rfl
      revert hc
      decide
  have hbegins {α : Type} [DecidableEq α] (front : Option α) (a : α) :
      front.any (· == a) = true ↔ front = some a := by
    cases front <;> simp
  rw [← hbegins, ← hbegins, htest.any_head?]

/-- The bytes of a character are passed over as the character is. -/
theorem closeOffset_encodeChar {m : Mode} {c : Char} {rest : Bytes}
    (h : ¬ (m = .outside ∧ c = '\x7d' ∧ rest.head? = some 0x7D)) :
    closeOffset m (String.utf8EncodeChar c ++ rest) =
      (closeOffset (m.next c) rest).map (· + (String.utf8EncodeChar c).length) := by
  by_cases hc : c.toNat < 0x80
  · have hbyte : (UInt8.ofNat c.toNat).toNat = c.toNat := by
      rw [UInt8.toNat_ofNat']
      omega
    have hbrace : UInt8.ofNat c.toNat = 0x7D → c = '\x7d' := by
      intro hb
      rw [hb] at hbyte
      exact Char.toNat_inj.mp hbyte.symm
    rw [Utf8.encodeChar_of_ascii hc, List.singleton_append, closeOffset, hbyte, Char.ofNat_toNat,
      if_neg fun hclose => h ⟨hclose.1, hbrace hclose.2.1, hclose.2.2⟩]
    rfl
  · have hc : 0x80 ≤ c.toNat := by omega
    obtain ⟨b, bytes, hbytes⟩ := List.exists_cons_of_ne_nil (String.utf8EncodeChar_ne_nil (c := c))
    have hle : ∀ b ∈ String.utf8EncodeChar c, 0x80 ≤ b.toNat :=
      fun _ => Utf8.le_of_mem_encodeChar hc
    rw [hbytes, List.forall_mem_cons] at hle
    have hskip : m.skip.skip = m.skip := by cases m <;> rfl
    rw [hbytes, List.cons_append, closeOffset_cons_of_le hle.1,
      closeOffset_append_of_le hle.2 hskip, Mode.next_of_le hc, Option.map_map]
    rfl

/-- The braces that are found in a text are found in its bytes, behind those of the text before
them. -/
theorem closeOffset_encode (m : Mode) (s : List Char) :
    closeOffset m (Utf8.encode s) =
      (closeFrom m s).map fun (body, _) => (Utf8.encode body).length := by
  induction s generalizing m with
  | nil =>
    rw [closeFrom_nil]
    rfl
  | cons c s ih =>
    by_cases hclose : m = .outside ∧ c = '\x7d' ∧ s.head? = some '\x7d'
    · obtain ⟨rfl, rfl, hhead⟩ := hclose
      obtain ⟨s, rfl⟩ := List.head?_eq_some_iff.mp hhead
      rw [closeFrom_closing]
      rfl
    · have hbyte : ¬ (m = .outside ∧ c = '\x7d' ∧ (Utf8.encode s).head? = some 0x7D) := by
        rwa [head?_encode_eq_brace_iff]
      rw [Utf8.encode_cons, closeOffset_encodeChar hbyte, ih, closeFrom_cons hclose]
      simp [Option.map_map, Function.comp_def, Nat.add_comm]

end QueryGateway.Template
