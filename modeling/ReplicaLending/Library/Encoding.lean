import Mathlib.Data.List.Basic
import Mathlib.Data.Char
import Mathlib.Tactic.IntervalCases
/-!
# Unambiguous text

An encoder writes a value as characters. It is *unambiguous* when the text of a value determines the
value and where it ends, whatever follows that cannot continue a number. The encoders below write
compact ASCII JSON, as `json.dumps(value, separators=(",", ":"))` does: decimal numbers, strings
with everything outside printable ASCII escaped, lists, and objects with a fixed sequence of keys.

Each combinator keeps unambiguity, so the text of a record type is injective as soon as its fields
are encoded by these.
-/

namespace Encoding

/-- Nothing follows, or something that is not a digit. -/
def Stops : List Char → Prop
  | [] => True
  | c :: _ => c.isDigit = false

/-- The text of a value determines it, also with more text behind it; and no text starts like the
end of a list. -/
structure Unambiguous {α : Type} (enc : α → List Char) : Prop where
  peel : ∀ {a b : α} {x y : List Char}, Stops x → Stops y → enc a ++ x = enc b ++ y → a = b ∧ x = y
  opens : ∀ a, ∃ c cs, enc a = c :: cs ∧ c ≠ ']'

variable {α β : Type} {enc : α → List Char} {enc' : β → List Char}

theorem Unambiguous.injective (h : Unambiguous enc) : Function.Injective enc := fun a b hab =>
  (h.peel (x := []) (y := []) trivial trivial (by rw [hab])).1

theorem Unambiguous.comap (h : Unambiguous enc) {f : β → α} (hf : Function.Injective f) :
    Unambiguous fun b => enc (f b) where
  peel hx hy he := have ⟨hab, hxy⟩ := h.peel hx hy he; ⟨hf hab, hxy⟩
  opens b := h.opens (f b)

/-! ## Numbers -/

/-- `str(n)`. -/
def nat (n : Nat) : List Char := Nat.toDigits 10 n

theorem peel_digits : ∀ {ds es x y : List Char}, (∀ c ∈ ds, c.isDigit = true) →
    (∀ c ∈ es, c.isDigit = true) → Stops x → Stops y → ds ++ x = es ++ y → ds = es ∧ x = y
  | [], [], _, _, _, _, _, _, h => ⟨rfl, h⟩
  | [], e :: es, x, y, _, he, hx, _, h => by
    simp only [List.nil_append] at h
    rw [h] at hx
    exact absurd (he e List.mem_cons_self) (by simpa [Stops] using hx)
  | d :: ds, [], x, y, hd, _, _, hy, h => by
    simp only [List.nil_append] at h
    rw [← h] at hy
    exact absurd (hd d List.mem_cons_self) (by simpa [Stops] using hy)
  | d :: ds, e :: es, x, y, hd, he, hx, hy, h => by
    simp only [List.cons_append, List.cons.injEq] at h
    obtain ⟨rfl, hxy⟩ := peel_digits (fun c hc => hd c (List.mem_cons_of_mem _ hc))
      (fun c hc => he c (List.mem_cons_of_mem _ hc)) hx hy h.2
    exact ⟨by rw [h.1], hxy⟩

theorem isDigit_nat {n : Nat} : ∀ c ∈ nat n, c.isDigit = true := fun _ hc =>
  Nat.isDigit_of_mem_toDigits (by decide) (by decide) hc

theorem unambiguous_nat : Unambiguous nat where
  peel {a b x y} hx hy h := by
    obtain ⟨hab, hxy⟩ := peel_digits isDigit_nat isDigit_nat hx hy h
    refine ⟨?_, hxy⟩
    rw [← Nat.ofDigitChars_ten_toDigits (n := a), ← Nat.ofDigitChars_ten_toDigits (n := b)]
    exact congrArg (Nat.ofDigitChars 10 · 0) hab
  opens n := by
    obtain ⟨c, cs, hc⟩ := List.exists_cons_of_ne_nil (Nat.toDigits_ne_nil (n := n) (b := 10))
    refine ⟨c, cs, hc, ?_⟩
    rintro rfl
    exact absurd (isDigit_nat (n := n) ']' (by rw [nat, hc]; exact List.mem_cons_self)) (by decide)

/-! ## Strings -/

/-- The four lower-case hexadecimal digits of a number below `2 ^ 16`. -/
def hex4 (u : Nat) : List Char :=
  [Nat.digitChar (u / 4096), Nat.digitChar (u / 256 % 16), Nat.digitChar (u / 16 % 16),
    Nat.digitChar (u % 16)]

/-- One UTF-16 code unit: the short escapes, printable ASCII as it is, the rest as `\uXXXX`. -/
def escapeUnit (u : Nat) : List Char :=
  match u with
  | 34 => ['\\', '"']
  | 92 => ['\\', '\\']
  | 10 => ['\\', 'n']
  | 13 => ['\\', 'r']
  | 9 => ['\\', 't']
  | 12 => ['\\', 'f']
  | 8 => ['\\', 'b']
  | u => if 32 ≤ u ∧ u ≤ 126 then [Char.ofNat u] else '\\' :: 'u' :: hex4 u

/-- A character outside the basic plane is written as a surrogate pair. -/
def escapeChar (c : Char) : List Char :=
  if c.toNat < 0x10000 then escapeUnit c.toNat
  else escapeUnit (0xD800 + (c.toNat - 0x10000) / 0x400) ++
    escapeUnit (0xDC00 + (c.toNat - 0x10000) % 0x400)

/-- A JSON string, every character outside printable ASCII escaped. -/
def str (s : String) : List Char := '"' :: (s.toList.flatMap escapeChar ++ ['"'])

def hexVal (c : Char) : Nat := if c.isDigit then c.toNat - 48 else c.toNat - 87

def shortVal : Char → Nat
  | 'n' => 10
  | 'r' => 13
  | 't' => 9
  | 'f' => 12
  | 'b' => 8
  | c => c.toNat

/-- Reads back the unit at the head of a text. -/
def readUnit : List Char → Nat × List Char
  | '\\' :: 'u' :: a :: b :: c :: d :: x =>
    (((hexVal a * 16 + hexVal b) * 16 + hexVal c) * 16 + hexVal d, x)
  | '\\' :: c :: x => (shortVal c, x)
  | c :: x => (c.toNat, x)
  | [] => (0, [])

theorem hexVal_digitChar {n : Nat} (h : n < 16) : hexVal (Nat.digitChar n) = n := by
  interval_cases n <;> rfl

theorem readUnit_hex4 {u : Nat} (h : u < 0x10000) (x : List Char) :
    readUnit ('\\' :: 'u' :: hex4 u ++ x) = (u, x) := by
  simp only [hex4, List.cons_append, List.nil_append, readUnit]
  rw [hexVal_digitChar (by omega), hexVal_digitChar (by omega), hexVal_digitChar (by omega),
    hexVal_digitChar (by omega)]
  congr 1
  omega

theorem toNat_ofNat {u : Nat} (h : u < 0xD800) : (Char.ofNat u).toNat = u := by
  have hv : u.isValidChar := .inl h
  have hof : Char.ofNat u = Char.ofNatAux u hv := dif_pos hv
  rw [hof]
  rfl

theorem readUnit_plain {c : Char} (hc : c ≠ '\\') (x : List Char) :
    readUnit (c :: x) = (c.toNat, x) := by
  unfold readUnit
  split
  · rename_i h; exact absurd (List.cons.inj h).1 hc
  · rename_i h; exact absurd (List.cons.inj h).1 hc
  · rename_i h; cases h; rfl
  · rename_i h; cases h

theorem readUnit_escapeUnit {u : Nat} (h : u < 0x10000) (x : List Char) :
    readUnit (escapeUnit u ++ x) = (u, x) := by
  unfold escapeUnit
  split
  · rfl
  · rfl
  · rfl
  · rfl
  · rfl
  · rfl
  · rfl
  · rename_i h92 _ _ _ _ _
    split
    · have hu : (Char.ofNat u).toNat = u := toNat_ofNat (by omega)
      rw [List.singleton_append, readUnit_plain _ x, hu]
      intro hc
      rw [hc] at hu
      exact h92 hu.symm
    · exact readUnit_hex4 h x

theorem peel_unit {u v : Nat} {x y : List Char} (hu : u < 0x10000) (hv : v < 0x10000)
    (h : escapeUnit u ++ x = escapeUnit v ++ y) : u = v ∧ x = y := by
  have he := congrArg readUnit h
  rw [readUnit_escapeUnit hu, readUnit_escapeUnit hv] at he
  exact Prod.mk.inj he

theorem toNat_lt (c : Char) : c.toNat < 0xD800 ∨ 0xDFFF < c.toNat ∧ c.toNat < 0x110000 := c.valid

/-- No character continues another one: a unit of the basic plane is no surrogate. -/
theorem peel_char {c d : Char} {x y : List Char} (h : escapeChar c ++ x = escapeChar d ++ y) :
    c = d ∧ x = y := by
  have hc := toNat_lt c
  have hd := toNat_lt d
  unfold escapeChar at h
  split at h
  · split at h
    · obtain ⟨hcd, hxy⟩ := peel_unit (by omega) (by omega) h
      exact ⟨Char.toNat_inj.1 hcd, hxy⟩
    · rw [List.append_assoc] at h
      have hcd := (peel_unit (by omega) (by omega) h).1
      omega
  · split at h
    · rw [List.append_assoc] at h
      have hcd := (peel_unit (by omega) (by omega) h).1
      omega
    · rw [List.append_assoc, List.append_assoc] at h
      obtain ⟨hhigh, h⟩ := peel_unit (by omega) (by omega) h
      obtain ⟨hlow, hxy⟩ := peel_unit (by omega) (by omega) h
      exact ⟨Char.toNat_inj.1 (by omega), hxy⟩

theorem escapeUnit_ne_quote {u : Nat} (h : u < 0x10000) (x y : List Char) :
    escapeUnit u ++ x ≠ '"' :: y := by
  intro he
  have hr := congrArg readUnit he
  rw [readUnit_escapeUnit h, readUnit_plain (by decide)] at hr
  obtain ⟨rfl, -⟩ := Prod.mk.inj hr
  cases he

theorem escapeChar_ne_quote (c : Char) (x y : List Char) : escapeChar c ++ x ≠ '"' :: y := by
  have hc := toNat_lt c
  unfold escapeChar
  split
  · exact escapeUnit_ne_quote (by omega) x y
  · rw [List.append_assoc]
    exact escapeUnit_ne_quote (by omega) _ y

theorem peel_chars : ∀ {cs ds x y : List Char},
    cs.flatMap escapeChar ++ '"' :: x = ds.flatMap escapeChar ++ '"' :: y → cs = ds ∧ x = y
  | [], [], _, _, h => ⟨rfl, (List.cons.inj h).2⟩
  | [], d :: ds, x, y, h => by
    rw [List.flatMap_cons, List.append_assoc] at h
    exact absurd h.symm (escapeChar_ne_quote d _ _)
  | c :: cs, [], x, y, h => by
    rw [List.flatMap_cons, List.append_assoc] at h
    exact absurd h (escapeChar_ne_quote c _ _)
  | c :: cs, d :: ds, x, y, h => by
    rw [List.flatMap_cons, List.flatMap_cons, List.append_assoc, List.append_assoc] at h
    obtain ⟨hcd, hrest⟩ := peel_char h
    obtain ⟨hcds, hxy⟩ := peel_chars hrest
    exact ⟨by rw [hcd, hcds], hxy⟩

theorem unambiguous_str : Unambiguous str where
  peel _ _ h := by
    simp only [str, List.cons_append, List.append_assoc, List.nil_append, List.cons.injEq,
      true_and] at h
    obtain ⟨hst, hxy⟩ := peel_chars h
    exact ⟨String.toList_inj.1 hst, hxy⟩
  opens s := ⟨'"', _, rfl, by decide⟩

/-! ## Lists -/

/-- The elements after the first, and the closing bracket. -/
def items (enc : α → List Char) (as : List α) : List Char :=
  as.flatMap (fun a => ',' :: enc a) ++ [']']

def list (enc : α → List Char) : List α → List Char
  | [] => ['[', ']']
  | a :: as => '[' :: (enc a ++ items enc as)

theorem items_stops (as : List α) (x : List Char) : Stops (items enc as ++ x) := by
  cases as with
  | nil => show Char.isDigit ']' = false; decide
  | cons a as => show Char.isDigit ',' = false; decide

theorem Unambiguous.peel_items (h : Unambiguous enc) : ∀ {as bs : List α} {x y : List Char},
    items enc as ++ x = items enc bs ++ y → as = bs ∧ x = y
  | [], [], _, _, he => ⟨rfl, (List.cons.inj he).2⟩
  | [], b :: bs, _, _, he => absurd (List.cons.inj he).1 (by decide)
  | a :: as, [], _, _, he => absurd (List.cons.inj he).1 (by decide)
  | a :: as, b :: bs, x, y, he => by
    have he' : enc a ++ (items enc as ++ x) = enc b ++ (items enc bs ++ y) := by
      simpa [items] using he
    obtain ⟨hab, hrest⟩ := h.peel (items_stops as x) (items_stops bs y) he'
    obtain ⟨habs, hxy⟩ := h.peel_items hrest
    exact ⟨by rw [hab, habs], hxy⟩

theorem Unambiguous.list (h : Unambiguous enc) : Unambiguous (list enc) where
  peel {as bs x y} hx hy he := by
    cases as with
    | nil =>
      cases bs with
      | nil => exact ⟨rfl, List.append_cancel_left he⟩
      | cons b bs =>
        obtain ⟨c, cs, hb, hc⟩ := h.opens b
        simp only [Encoding.list, hb, List.cons_append, List.cons.injEq, true_and] at he
        exact absurd he.1.symm hc
    | cons a as =>
      cases bs with
      | nil =>
        obtain ⟨c, cs, ha, hc⟩ := h.opens a
        simp only [Encoding.list, ha, List.cons_append, List.cons.injEq, true_and] at he
        exact absurd he.1 hc
      | cons b bs =>
        simp only [Encoding.list, List.cons_append, List.append_assoc, List.cons.injEq,
          true_and] at he
        obtain ⟨hab, hrest⟩ := h.peel (items_stops as x) (items_stops bs y) he
        obtain ⟨habs, hxy⟩ := h.peel_items hrest
        exact ⟨by rw [hab, habs], hxy⟩
  opens as := by
    cases as with
    | nil => exact ⟨'[', _, rfl, by decide⟩
    | cons a as => exact ⟨'[', _, rfl, by decide⟩

/-- Each value with a comma behind it, and nothing around them. -/
def terminated (enc : α → List Char) (as : List α) : List Char := as.flatMap fun a => enc a ++ [',']

theorem Unambiguous.terminated (h : Unambiguous enc) : Function.Injective (terminated enc) := by
  intro as
  induction as with
  | nil =>
    intro bs he
    cases bs with
    | nil => rfl
    | cons b bs => simp [Encoding.terminated] at he
  | cons a as ih =>
    intro bs he
    cases bs with
    | nil => simp [Encoding.terminated] at he
    | cons b bs =>
      simp only [Encoding.terminated, List.flatMap_cons, List.append_assoc] at he
      -- a comma stops every text before it
      obtain ⟨hab, hrest⟩ := h.peel (show Stops (',' :: _) from rfl) (show Stops (',' :: _) from rfl) he
      rw [hab, ih (List.cons.inj hrest).2]

/-! ## Objects with fixed keys -/

/-- `"key":value`. -/
def field (key : String) (enc : α → List Char) (a : α) : List Char := str key ++ ':' :: enc a

/-- Two fields, or more. -/
def both (enc : α → List Char) (enc' : β → List Char) (p : α × β) : List Char :=
  enc p.1 ++ ',' :: enc' p.2

/-- The braces around the fields. -/
def obj (enc : α → List Char) (a : α) : List Char := '{' :: (enc a ++ ['}'])

theorem Unambiguous.field (h : Unambiguous enc) (key : String) :
    Unambiguous (field key enc) where
  peel hx hy he := by
    simp only [Encoding.field, List.append_assoc, List.append_cancel_left_eq, List.cons_append,
      List.cons.injEq, true_and] at he
    exact h.peel hx hy he
  opens a := ⟨'"', _, rfl, by decide⟩

theorem Unambiguous.both (h : Unambiguous enc) (h' : Unambiguous enc') :
    Unambiguous (both enc enc') where
  peel {a b x y} hx hy he := by
    have hcomma : ∀ z, Stops (',' :: z) := fun _ => by show Char.isDigit ',' = false; decide
    simp only [Encoding.both, List.append_assoc, List.cons_append] at he
    obtain ⟨h₁, he⟩ := h.peel (hcomma _) (hcomma _) he
    obtain ⟨h₂, hxy⟩ := h'.peel hx hy (List.cons.inj he).2
    exact ⟨Prod.ext h₁ h₂, hxy⟩
  opens p := by
    obtain ⟨c, cs, hc, hne⟩ := h.opens p.1
    exact ⟨c, cs ++ ',' :: enc' p.2, by rw [Encoding.both, hc]; rfl, hne⟩

theorem Unambiguous.obj (h : Unambiguous enc) : Unambiguous (obj enc) where
  peel {a b x y} _ _ he := by
    have hbrace : ∀ z, Stops ('}' :: z) := fun _ => by show Char.isDigit '}' = false; decide
    simp only [Encoding.obj, List.cons_append, List.append_assoc, List.nil_append, List.cons.injEq,
      true_and] at he
    obtain ⟨hab, he⟩ := h.peel (hbrace _) (hbrace _) he
    exact ⟨hab, (List.cons.inj he).2⟩
  opens a := ⟨'{', _, rfl, by decide⟩

end Encoding
