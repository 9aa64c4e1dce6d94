import Mathlib.Data.List.Induction
import GuidedTour.Json.Reader

/-! What is written is read again. The tokens of the compact text of a value are the tokens of
the value, and a reader that expects its shape takes the value from them. -/
namespace GuidedTour.Json

section Strings

variable {c : Char} {pieces : List Piece} {read : List Token}

/-- A character that stands for itself in a string. -/
def IsPlain (c : Char) : Prop := c ≠ '"' ∧ c ≠ '\\' ∧ ¬c.toNat < 0x20

instance : DecidablePred IsPlain := fun _ => inferInstanceAs (Decidable (_ ∧ _))

theorem step_plain (plain : IsPlain c) :
    Scan.step ⟨.string pieces, read⟩ c = ⟨.string (.char c :: pieces), read⟩ := by
  obtain ⟨quote, escape, control⟩ := plain
  simp only [Scan.step, quote, escape, control, if_false, Scan.enter]

theorem scan_plain {cs : List Char} (plain : ∀ c ∈ cs, IsPlain c) (pieces : List Piece)
    (read : List Token) : cs.foldl Scan.step ⟨.string pieces, read⟩ =
      ⟨.string ((cs.map .char).reverse ++ pieces), read⟩ := by
  induction cs generalizing pieces with
  | nil => rfl
  | cons c cs ih =>
    rw [List.foldl_cons, step_plain (plain c List.mem_cons_self),
      ih fun c mem => plain c (List.mem_cons_of_mem _ mem)]
    simp

theorem joinPieces_plain (cs done : List Char) :
    joinPieces (cs.map .char).reverse done = some (cs ++ done) := by
  induction cs using List.reverseRecOn generalizing done with
  | nil => rfl
  | append_singleton cs c ih => simp [joinPieces, ih]

theorem scan_unit (control : c.toNat < 0x20) :
    ['\\', 'u', '0', '0', Text.Hex.digit (c.toNat / 16), Text.Hex.digit (c.toNat % 16)].foldl
      Scan.step ⟨.string pieces, read⟩ = ⟨.string (.char c :: pieces), read⟩ := by
  have high := Text.Hex.value?_digit (n := c.toNat / 16) (by omega)
  have low := Text.Hex.value?_digit (n := c.toNat % 16) (by omega)
  have zero : Text.Hex.value? '0' = some 0 := by decide
  have number : c.toNat / 16 * 16 + c.toNat % 16 = c.toNat := by omega
  have whole : ¬(0xD800 ≤ c.toNat ∧ c.toNat ≤ 0xDFFF) := by omega
  have slash : Scan.step ⟨.string pieces, read⟩ '\\' = ⟨.escape pieces, read⟩ := rfl
  have unit : Scan.step ⟨.escape pieces, read⟩ 'u' = ⟨.unit pieces 0 4, read⟩ := rfl
  simp only [List.foldl_cons, List.foldl_nil, slash, unit]
  simp only [Scan.step, Scan.enter, zero, high, low, Nat.zero_mul, Nat.zero_add, Nat.reduceSub,
    Nat.reduceEqDiff, if_false, if_true, number, Piece.ofUnit, whole, Char.ofNat_toNat]

theorem scan_escape (c : Char) (pieces : List Piece) (read : List Token) :
    (escape c).foldl Scan.step ⟨.string pieces, read⟩ = ⟨.string (.char c :: pieces), read⟩ := by
  unfold escape
  repeat' split
  all_goals try (subst_vars; rfl)
  · exact scan_unit ‹_›
  · exact step_plain ⟨‹_›, ‹_›, ‹_›⟩

theorem scan_escapes (cs : List Char) (pieces : List Piece) (read : List Token) :
    (cs.flatMap escape).foldl Scan.step ⟨.string pieces, read⟩ =
      ⟨.string ((cs.map .char).reverse ++ pieces), read⟩ := by
  induction cs generalizing pieces with
  | nil => rfl
  | cons c cs ih =>
    rw [List.flatMap_cons, List.foldl_append, scan_escape, ih]
    simp

@[simp] theorem scan_quote (s : String) (read : List Token) :
    (quote s).foldl Scan.step ⟨.between, read⟩ = ⟨.between, .text (some s) :: read⟩ := by
  rw [quote, List.foldl_cons, List.foldl_append]
  change ['"'].foldl Scan.step ((s.toList.flatMap escape).foldl Scan.step ⟨.string [], read⟩) = _
  rw [scan_escapes, List.append_nil]
  simp [Scan.step, Scan.emit, joinPieces_plain]

end Strings

mutual

/-- The tokens of a value, in the order of its text. -/
def toTokens : Json → List Token
  | null => [.null]
  | flag b => [.flag b]
  | number lexeme => [.number lexeme.toList]
  | text s => [.text (some s)]
  | list [] => [.openList, .closeList]
  | list (item :: items) => .openList :: (toTokens item ++ moreItemTokens items)
  | object [] => [.openObject, .closeObject]
  | object ((key, value) :: fields) =>
    .openObject :: .text (some key) :: .colon :: (toTokens value ++ moreFieldTokens fields)

def moreItemTokens : List Json → List Token
  | [] => [.closeList]
  | item :: items => .comma :: (toTokens item ++ moreItemTokens items)

def moreFieldTokens : List (String × Json) → List Token
  | [] => [.closeObject]
  | (key, value) :: fields =>
    .comma :: .text (some key) :: .colon :: (toTokens value ++ moreFieldTokens fields)

end

mutual

/-- Holds no number. -/
def Numberless : Json → Prop
  | null | flag _ | text _ => True
  | number _ => False
  | list items => NumberlessItems items
  | object fields => NumberlessFields fields

def NumberlessItems : List Json → Prop
  | [] => True
  | item :: items => Numberless item ∧ NumberlessItems items

def NumberlessFields : List (String × Json) → Prop
  | [] => True
  | (_, value) :: fields => Numberless value ∧ NumberlessFields fields

end

/-- Scanning this text between two tokens finds these. -/
def Scans (text : List Char) (tokens : List Token) : Prop :=
  ∀ read, text.foldl Scan.step ⟨.between, read⟩ = ⟨.between, tokens.reverse ++ read⟩

namespace Scans

variable {cs ds : List Char} {ts us : List Token}

theorem append (h : Scans cs ts) (h' : Scans ds us) : Scans (cs ++ ds) (ts ++ us) := by
  intro read
  rw [List.foldl_append, h, h', List.reverse_append, List.append_assoc]

theorem cons {c : Char} {t : Token} (one : Scans [c] [t]) (h : Scans cs ts) :
    Scans (c :: cs) (t :: ts) :=
  one.append h

theorem text (s : String) (h : Scans cs ts) : Scans (quote s ++ cs) (.text (some s) :: ts) := by
  intro read
  rw [List.foldl_append, scan_quote, h]
  simp

end Scans

mutual

theorem scan_chars : ∀ j : Json, j.Numberless → Scans j.chars j.toTokens
  | null, _ => fun _ => rfl
  | flag true, _ => fun _ => rfl
  | flag false, _ => fun _ => rfl
  | text s, _ => scan_quote s
  | list [], _ => fun _ => rfl
  | list (item :: items), h =>
    .cons (fun _ => rfl) ((scan_chars item h.1).append (scan_moreItems items h.2))
  | object [], _ => fun _ => rfl
  | object ((key, value) :: fields), h =>
    .cons (fun _ => rfl) (.text key (.cons (fun _ => rfl)
      ((scan_chars value h.1).append (scan_moreFields fields h.2))))

theorem scan_moreItems : ∀ items : List Json, NumberlessItems items →
    Scans (moreItems items) (moreItemTokens items)
  | [], _ => fun _ => rfl
  | item :: items, h =>
    .cons (fun _ => rfl) ((scan_chars item h.1).append (scan_moreItems items h.2))

theorem scan_moreFields : ∀ fields : List (String × Json), NumberlessFields fields →
    Scans (moreFields fields) (moreFieldTokens fields)
  | [], _ => fun _ => rfl
  | (key, value) :: fields, h =>
    .cons (fun _ => rfl) (.text key (.cons (fun _ => rfl)
      ((scan_chars value h.1).append (scan_moreFields fields h.2))))

end

theorem tokens_compact {j : Json} (h : j.Numberless) : tokens j.compact = j.toTokens := by
  rw [tokens, compact, String.toList_ofList, scan_chars j h []]
  simp [Scan.finish]

/-- The shape of a value that stands inside of so many open lists and objects. -/
inductive Fits : Nat → Shape → Json → Prop where
  | text {n s} : Fits n .text (.text s)
  | flag {n b} : Fits n .flag (.flag b)
  | missing {n shape} : Fits n (.optional shape) .null
  | given {n shape j} : Fits n shape j → Fits n (.optional shape) j
  | list {n shape items} : n < maxDepth → (∀ item ∈ items, Fits (n + 1) shape item) →
    Fits n (.list shape) (.list items)

theorem numberlessItems {items : List Json} (h : ∀ item ∈ items, item.Numberless) :
    NumberlessItems items := by
  induction items with
  | nil => trivial
  | cons item items ih =>
    exact ⟨h item List.mem_cons_self, ih fun item mem => h item (List.mem_cons_of_mem _ mem)⟩

theorem numberlessFields {fields : List (String × Json)} (h : ∀ e ∈ fields, e.2.Numberless) :
    NumberlessFields fields := by
  induction fields with
  | nil => trivial
  | cons e fields ih =>
    exact ⟨h e List.mem_cons_self, ih fun e mem => h e (List.mem_cons_of_mem _ mem)⟩

theorem Fits.numberless {n : Nat} {shape : Shape} {j : Json} (h : Fits n shape j) :
    j.Numberless := by
  induction h with
  | text | flag | missing => trivial
  | given _ ih => exact ih
  | list _ _ ih => exact numberlessItems ih

/-- What is written item by item is read item by item. -/
theorem mapM_written {m : Type → Type} [Monad m] [LawfulMonad m] {write : α → β} {take : β → m α}
    (takes : ∀ a, take (write a) = pure a) (as : List α) :
    (as.map write).mapM take = pure as := by
  have same : take ∘ write = fun a => pure (id a) := funext takes
  rw [List.mapM_map, same, List.mapM_pure, List.map_id]

theorem texts?_texts (ss : List String) : (texts ss).texts? = some ss := by
  have takes (s : String) : text? (text s) = pure s := rfl
  exact mapM_written takes ss

section Reading

variable {stack : List Frame} {shape : Shape} {j : Json}

/-- A reader that expects this shape takes this value from its tokens. -/
def Taken (stack : List Frame) (shape : Shape) (j : Json) : Prop :=
  ∃ first rest, j.toTokens = first :: rest ∧ first ≠ .closeList ∧
    (startValue stack shape first >>= fun r => rest.foldlM Reading.step r) =
      .ok (deliver (some j) stack)

theorem foldlM_append_ok {tokens more : List Token} {r next : Reading}
    (h : tokens.foldlM Reading.step r = .ok next) :
    (tokens ++ more).foldlM Reading.step r = more.foldlM Reading.step next := by
  rw [List.foldlM_append, h]
  rfl

theorem Taken.follow {phase : Phase} (taken : Taken stack shape j)
    (starts : ∀ token, token ≠ .closeList →
      Reading.step ⟨phase, stack⟩ token = startValue stack shape token) :
    j.toTokens.foldlM Reading.step ⟨phase, stack⟩ = .ok (deliver (some j) stack) := by
  obtain ⟨first, rest, tokens, opens, start⟩ := taken
  rw [tokens, List.foldlM_cons, starts first opens]
  exact start

theorem read_moreItems {items : List Json}
    (taken : ∀ item ∈ items, ∀ read, Taken (.items shape read :: stack) shape item)
    (read : List Json) :
    (moreItemTokens items).foldlM Reading.step ⟨.afterItem, .items shape read :: stack⟩ =
      .ok (deliver (some (.list (read.reverse ++ items))) stack) := by
  induction items generalizing read with
  | nil =>
    rw [List.append_nil]
    rfl
  | cons item items ih =>
    have next : item.toTokens.foldlM Reading.step ⟨.nextItem, .items shape read :: stack⟩ =
        .ok ⟨.afterItem, .items shape (item :: read) :: stack⟩ :=
      (taken item List.mem_cons_self read).follow fun _ _ => rfl
    change (item.toTokens ++ moreItemTokens items).foldlM Reading.step _ = _
    rw [foldlM_append_ok next]
    refine (ih (fun item mem => taken item (List.mem_cons_of_mem _ mem)) (item :: read)).trans ?_
    simp

theorem null_of_toTokens {rest : List Token} (h : j.toTokens = .null :: rest) : j = .null := by
  cases j with
  | null => rfl
  | flag | number | text => simp [toTokens] at h
  | list items => cases items <;> simp [toTokens] at h
  | object fields => cases fields <;> simp [toTokens] at h

/-- Opened as a list of this shape, the tokens of a list give it back item by item. -/
theorem taken_list {outer : Shape} {items : List Json}
    (opened : startValue stack outer .openList = .ok ⟨.firstItem, .items shape [] :: stack⟩)
    (taken : ∀ item ∈ items, ∀ read, Taken (.items shape read :: stack) shape item) :
    Taken stack outer (.list items) := by
  cases items with
  | nil =>
    refine ⟨.openList, [.closeList], rfl, by simp, ?_⟩
    rw [opened]
    rfl
  | cons item items =>
    refine ⟨.openList, item.toTokens ++ moreItemTokens items, rfl, by simp, ?_⟩
    have first : item.toTokens.foldlM Reading.step ⟨.firstItem, .items shape [] :: stack⟩ =
        .ok ⟨.afterItem, [.items shape [item]] ++ stack⟩ :=
      (taken item List.mem_cons_self []).follow fun token opens => by
        cases token <;> first | rfl | exact absurd rfl opens
    rw [opened]
    exact (foldlM_append_ok first).trans
      (read_moreItems (fun item mem => taken item (List.mem_cons_of_mem _ mem)) [item])

theorem Fits.taken {n : Nat} (fits : Fits n shape j) (depth : stack.length = n) :
    Taken stack shape j := by
  induction fits generalizing stack with
  | text | flag | missing => exact ⟨_, _, rfl, by simp, rfl⟩
  | given fits ih =>
    rename_i shape j
    obtain ⟨first, rest, tokens, opens, start⟩ := ih depth
    refine ⟨first, rest, tokens, opens, ?_⟩
    by_cases null : first = .null
    · subst null
      cases null_of_toTokens tokens
      cases tokens
      rfl
    · have given : startValue stack (.optional shape) first = startValue stack shape first := by
        cases first <;> first | rfl | exact absurd rfl null
      rw [given]
      exact start
  | list shallow fits ih =>
    rename_i shape items
    have opened : startValue stack (.list shape) .openList =
        .ok ⟨.firstItem, .items shape [] :: stack⟩ := by
      rw [startValue, openFrame, if_pos (depth ▸ shallow)]
    exact taken_list opened fun item mem read => ih item mem (by simp [depth])

end Reading

section Records

variable {declared : List Field} {fields : List (String × Json)}

/-- A record that is written with declared fields only: each fits, none comes twice, and none is
left out that has to be there. -/
structure Written (declared : List Field) (fields : List (String × Json)) : Prop where
  fits : ∀ e ∈ fields, ∃ field, declared.find? (·.name == e.1) = some field ∧ Fits 1 field.shape e.2
  once : (fields.map (·.1)).Nodup
  complete : ∀ field ∈ declared, field.required = true → field.name ∈ fields.map (·.1)

section Fields

variable {name other : String} {value last : Json} {field next : Field}

theorem Written.one (known : declared.find? (·.name == name) = some field)
    (fits : Fits 1 field.shape value) (needs : ∀ f ∈ declared, f.required = true → f.name = name) :
    Written declared [(name, value)] where
  fits e mem := by
    obtain rfl := List.mem_singleton.1 mem
    exact ⟨field, known, fits⟩
  once := by simp
  complete f mem required := List.mem_singleton.2 (needs f mem required)

theorem Written.two (known : declared.find? (·.name == name) = some field)
    (fits : Fits 1 field.shape value) (known' : declared.find? (·.name == other) = some next)
    (fits' : Fits 1 next.shape last) (differ : name ≠ other)
    (needs : ∀ f ∈ declared, f.required = true → f.name = name ∨ f.name = other) :
    Written declared [(name, value), (other, last)] where
  fits e mem := by
    obtain rfl | rfl := by simpa using mem
    · exact ⟨field, known, fits⟩
    · exact ⟨next, known', fits'⟩
  once := by simp [differ]
  complete f mem required := by simpa using needs f mem required

end Fields

theorem Written.numberless (h : Written declared fields) : (object fields).Numberless := by
  apply numberlessFields
  intro e mem
  obtain ⟨field, -, fits⟩ := h.fits e mem
  exact fits.numberless

theorem close_written {read : List (String × Json)} (h : Written declared read.reverse)
    (key : String) :
    closeObject [.record declared key read] = .ok ⟨.done (.object read.reverse), []⟩ := by
  have complete : (declared.all fun f => !f.required || read.any (·.1 == f.name)) = true := by
    rw [List.all_eq_true]
    intro field mem
    cases required : field.required with
    | false => rfl
    | true =>
      have there := h.complete field mem required
      simpa [List.any_eq_true] using there
  rw [closeObject, complete]
  rfl

theorem read_field {phase : Phase} {key name : String} {field : Field} {value : Json}
    {read : List (String × Json)} (known : declared.find? (·.name == name) = some field)
    (fresh : name ∉ read.map (·.1)) (fits : Fits 1 field.shape value)
    (starts : ∀ token, Reading.step ⟨phase, [.record declared key read]⟩ (.text token) =
      readKey [.record declared key read] token) :
    (.text (some name) :: .colon :: value.toTokens).foldlM Reading.step
        ⟨phase, [.record declared key read]⟩ =
      .ok ⟨.afterField, [.record declared name ((name, value) :: read)]⟩ := by
  have unread : ¬read.any (·.1 == name) = true := by
    rw [List.any_eq_true]
    rintro ⟨e, mem, same⟩
    exact fresh (List.mem_map.2 ⟨e, mem, eq_of_beq same⟩)
  have named : readKey [.record declared key read] (some name) =
      .ok ⟨.colon field.shape, [.record declared name read]⟩ := by
    dsimp only [readKey]
    rw [known]
    exact if_neg unread
  have taken : Taken [.record declared name read] field.shape value := fits.taken rfl
  rw [List.foldlM_cons, starts, named]
  exact taken.follow fun _ _ => rfl

theorem read_moreFields (read : List (String × Json)) (key : String)
    (h : Written declared (read.reverse ++ fields)) :
    (moreFieldTokens fields).foldlM Reading.step ⟨.afterField, [.record declared key read]⟩ =
      .ok ⟨.done (.object (read.reverse ++ fields)), []⟩ := by
  induction fields generalizing read key with
  | nil =>
    rw [List.append_nil] at h ⊢
    have closed : Reading.step ⟨.afterField, [.record declared key read]⟩ .closeObject =
        .ok ⟨.done (.object read.reverse), []⟩ := close_written h key
    rw [moreFieldTokens, List.foldlM_cons, closed]
    rfl
  | cons e rest ih =>
    obtain ⟨name, value⟩ := e
    obtain ⟨field, known, fits⟩ := h.fits (name, value) (by simp)
    have fresh : name ∉ read.map (·.1) := by
      have once := h.once
      simp only [List.map_append, List.map_reverse, List.map_cons, List.nodup_append,
        List.mem_reverse] at once
      exact fun mem => once.2.2 _ mem _ List.mem_cons_self rfl
    have next : (.text (some name) :: .colon :: value.toTokens).foldlM Reading.step
        ⟨.nextKey, [.record declared key read]⟩ = _ := read_field known fresh fits fun _ => rfl
    have more : Written declared (((name, value) :: read).reverse ++ rest) := by simpa using h
    refine (foldlM_append_ok next).trans ((ih _ name more).trans ?_)
    simp

theorem readRecord_compact (h : Written declared fields) :
    readRecord declared (object fields).compact = .ok fields := by
  have opened : (object fields).toTokens.foldlM Reading.step ⟨.record declared, []⟩ =
      .ok ⟨.done (.object fields), []⟩ := by
    cases fields with
    | nil =>
      have closed : Reading.step ⟨.firstKey, [.record declared "" []]⟩ .closeObject =
          .ok ⟨.done (.object []), []⟩ := close_written h ""
      change [Token.closeObject].foldlM Reading.step ⟨.firstKey, [.record declared "" []]⟩ = _
      rw [List.foldlM_cons, closed]
      rfl
    | cons e rest =>
      obtain ⟨name, value⟩ := e
      obtain ⟨field, known, fits⟩ := h.fits (name, value) List.mem_cons_self
      have first : (.text (some name) :: .colon :: value.toTokens).foldlM Reading.step
          ⟨.firstKey, [.record declared "" []]⟩ = _ :=
        read_field known (by simp) fits fun _ => rfl
      exact (foldlM_append_ok first).trans (read_moreFields [(name, value)] name h)
  rw [readRecord, readFrom, tokens_compact h.numberless, opened]
  rfl

end Records

end GuidedTour.Json
