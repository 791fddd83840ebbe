import PcieSwitch.Proofs.HexdumpFeeding
import PcieSwitch.Proofs.WrittenText

/-!
This module contains the reading of a dump. Its text consists of rows, and a reader that takes a mark for
copies of the full line before it, as many as there is room for up to the next address, gets back the start
and the bytes.
-/

namespace PcieSwitch
namespace Hexdump

inductive Row where
  | mark
  | line (address : Nat) (data : Bytes)
  | stop (address : Nat)
  deriving DecidableEq, Repr

namespace Row

def text : Row → String
  | .mark => "*\n"
  | .line address data => Hexdump.line address data
  | .stop address => Text.hex address 8 ++ "\n"

def words (cs : List Char) : List (List Char) :=
  (Text.splitAtEach ' ' cs).filter (· ≠ [])

def read? (cs : List Char) : Option Row :=
  match words (cs.takeWhile (· ≠ '|')) with
  | [] => none
  | [word] => if word = ['*'] then some .mark else (Numeral.parseHex 64 word).toOption.map .stop
  | word :: cells => do
    let address ← (Numeral.parseHex 64 word).toOption
    let data ← cells.mapM fun cell => (Numeral.parseHex 8 cell).toOption
    return .line address (data.map UInt8.ofNat)

end Row

def readRows? (text : String) : Option (List Row) :=
  (Text.splitAtEach '\n' text.toList).dropLast.mapM Row.read?

def copies (count : Nat) (data : Bytes) : Bytes :=
  (List.replicate count data).flatten

/--
The start and the bytes that rows stand for. A mark stands for copies of the line before it, up to the next
address.
-/
def expand? : List Row → Option (Nat × Bytes)
  | [.stop address] => some (address, [])
  | .line address data :: .mark :: rest => do
    let (next, others) ← expand? rest
    return (address, data ++ copies ((next - (address + data.length)) / data.length) data ++ others)
  | .line address data :: rest => do
    let (_, others) ← expand? rest
    return (address, data ++ others)
  | _ => none

def read? (text : String) : Option (Nat × Bytes) := do
  expand? (← readRows? text)

def rows (d : Hexdump) : List Bytes → List Row
  | [] => [.stop d.address]
  | data :: rest =>
    if d.Repeats data then
      if d.squeezed then rows (d.feedLine data).1 rest else .mark :: rows (d.feedLine data).1 rest
    else
      .line d.address data :: rows (d.feedLine data).1 rest

theorem feedLines_eq_rows (d : Hexdump) (lines : List Bytes)
    : (d.feedLines lines).2 ++ (d.feedLines lines).1.finish = String.join ((d.rows lines).map Row.text) := by
  induction lines generalizing d with
  | nil => simp [rows, finish, Row.text]
  | cons data rest ih =>
    rw [feedLines_cons, String.append_assoc, ih, rows]
    split
    . next hrepeats =>
      rw [feedLine_of_repeats hrepeats]
      split <;> simp [Row.text]
    . next hnew =>
      rw [feedLine_of_not_repeats hnew]
      simp [Row.text]

namespace Row

theorem words_cons_blank (cs : List Char) : words (' ' :: cs) = words cs := by
  simp [words]

theorem words_blanks (count : Nat) (cs : List Char)
    : words (List.replicate count ' ' ++ cs) = words cs := by
  induction count with
  | zero => rfl
  | succ count ih => rw [List.replicate_succ, List.cons_append, words_cons_blank, ih]

theorem words_of_not_mem {word : List Char} (hne : word ≠ []) (hblank : ' ' ∉ word)
    : words word = [word] := by
  unfold words
  rw [Text.splitAtEach_of_not_mem hblank]
  simp [hne]

theorem words_append {word cs : List Char} (hne : word ≠ []) (hblank : ' ' ∉ word)
    (hcs : cs.head? = some ' ') : words (word ++ cs) = word :: words cs := by
  obtain ⟨rest, rfl⟩ := List.head?_eq_some_iff.mp hcs
  unfold words
  rw [Text.splitAtEach_append hblank, Text.splitAtEach_cons_self]
  simp [hne]

theorem words_hex_append (n width : Nat) {cs : List Char} (hcs : cs.head? = some ' ')
    : words ((Text.hex n width).toList ++ cs) = (Text.hex n width).toList :: words cs :=
  words_append (Text.hex_ne_nil n width) (Text.not_mem_hex (by decide) n width) hcs

def cell (b : UInt8) : List Char :=
  ' ' :: (Text.hex b.toNat 2).toList

theorem head?_cells (data : Bytes) {cs : List Char} (hcs : cs.head? = some ' ')
    : (data.flatMap cell ++ cs).head? = some ' ' := by
  cases data with
  | nil => exact hcs
  | cons b data => rfl

theorem words_cells (data : Bytes) {cs : List Char} (hcs : cs.head? = some ' ')
    : words (data.flatMap cell ++ cs) = data.map (fun b => (Text.hex b.toNat 2).toList) ++ words cs := by
  induction data with
  | nil => rfl
  | cons b data ih =>
    rw [List.flatMap_cons, List.append_assoc, cell, List.cons_append, words_cons_blank]
    rw [words_hex_append _ _ (head?_cells data hcs), ih]
    rfl

def beforeBar (address : Nat) (data : Bytes) : List Char :=
  (Text.hex address 8).toList
    ++ ' ' :: ((data.take 8).flatMap cell
      ++ (List.replicate (if 8 < data.length then 1 else 0) ' '
        ++ ((data.drop 8).flatMap cell ++ List.replicate (3 * (lineLength - data.length) + 2) ' ')))

theorem toList_line (address : Nat) (data : Bytes)
    : (Hexdump.line address data).toList = beforeBar address data ++ '|' :: data.map shown ++ ['|', '\n'] := by
  have hcells (data : Bytes) : (data.map fun b => " " ++ Text.hex b.toNat 2).flatMap String.toList
      = data.flatMap cell := by
    rw [List.flatMap_map]
    apply List.flatMap_congr
    intro b _
    rw [String.toList_append]
    rfl
  have hgap : (if 8 < data.length then " " else "").toList
      = List.replicate (if 8 < data.length then 1 else 0) ' ' := by
    split <;> rfl
  unfold Hexdump.line beforeBar
  simp only [String.toList_append, String.toList_join, hcells, hgap, String.toList_ofList]
  rw [List.replicate_add]
  simp

theorem words_beforeBar (address : Nat) (data : Bytes)
    : words (beforeBar address data)
        =
      (Text.hex address 8).toList :: data.map fun b => (Text.hex b.toNat 2).toList := by
  have hblank : (List.replicate (3 * (lineLength - data.length) + 2) ' ').head? = some ' ' := by
    rfl
  have hend : words (List.replicate (3 * (lineLength - data.length) + 2) ' ') = [] := by
    rw [← List.append_nil (List.replicate _ _), words_blanks]
    rfl
  have hright : (List.replicate (if 8 < data.length then 1 else 0) ' '
      ++ ((data.drop 8).flatMap cell ++ List.replicate (3 * (lineLength - data.length) + 2) ' ')).head?
      = some ' ' := by
    split
    . rfl
    . exact head?_cells _ hblank
  unfold beforeBar
  rw [words_hex_append _ _ rfl, words_cons_blank, words_cells _ hright, words_blanks, words_cells _ hblank]
  rw [hend, List.append_nil, ← List.map_append, List.take_append_drop]

theorem not_mem_beforeBar {c : Char} (hdigit : Numeral.digit? 16 c = none) (hblank : c ≠ ' ')
    (address : Nat) (data : Bytes) : c ∉ beforeBar address data := by
  have hhex (n width : Nat) : c ∉ (Text.hex n width).toList := Text.not_mem_hex hdigit n width
  have hcells (data : Bytes) : c ∉ data.flatMap cell := by
    intro hmem
    obtain ⟨b, _, hcell⟩ := List.mem_flatMap.mp hmem
    rcases List.mem_cons.mp hcell with heq | hdigits
    . exact hblank heq
    . exact hhex _ _ hdigits
  simp [beforeBar, hhex, hcells, hblank, List.mem_replicate]

theorem shown_ne_newline (b : UInt8) : shown b ≠ '\n' := by
  have hgraphic : ∀ n < 0x7F, 0x20 ≤ n → Char.ofNat n ≠ '\n' := by decide
  unfold shown
  split
  . next hrange => exact hgraphic b.toNat hrange.2 hrange.1
  . decide

def body : Row → List Char
  | .mark => ['*']
  | .line address data => beforeBar address data ++ '|' :: data.map shown ++ ['|']
  | .stop address => (Text.hex address 8).toList

theorem toList_text (row : Row) : row.text.toList = row.body ++ ['\n'] := by
  cases row with
  | mark => rfl
  | line address data =>
    rw [text, toList_line, body, List.append_assoc, List.append_assoc, List.append_assoc]
    rfl
  | stop address =>
    rw [text, String.toList_append]
    rfl

theorem newline_not_mem_body (row : Row) : '\n' ∉ row.body := by
  cases row with
  | mark => decide
  | line address data =>
    have hbefore : '\n' ∉ beforeBar address data := not_mem_beforeBar (by decide) (by decide) address data
    simp [body, hbefore, shown_ne_newline]
  | stop address => exact Text.not_mem_hex (by decide) address 8

def Fits : Row → Prop
  | .mark => True
  | .line address data => address < 2 ^ 64 ∧ data ≠ []
  | .stop address => address < 2 ^ 64

theorem takeWhile_bar {cs : List Char} (h : '|' ∉ cs) (rest : List Char)
    : (cs ++ rest).takeWhile (· ≠ '|') = cs ++ rest.takeWhile (· ≠ '|') := by
  apply List.takeWhile_append_of_pos
  intro c hc
  rw [decide_eq_true_eq]
  exact fun heq => h (heq ▸ hc)

theorem mapM_cells (data : Bytes)
    : (data.map fun b => (Text.hex b.toNat 2).toList).mapM (fun cell => (Numeral.parseHex 8 cell).toOption)
        =
      some (data.map UInt8.toNat) := by
  induction data with
  | nil => rfl
  | cons b data ih =>
    rw [List.map_cons, List.mapM_cons, ih, Text.parseHex_hex b.toNat_lt]
    rfl

theorem read?_of_words {cs word : List Char} {cells : List (List Char)}
    (h : words (cs.takeWhile (· ≠ '|')) = word :: cells) (hcells : cells ≠ [])
    : read? cs = (do
        let address ← (Numeral.parseHex 64 word).toOption
        let data ← cells.mapM fun cell => (Numeral.parseHex 8 cell).toOption
        return .line address (data.map UInt8.ofNat)) := by
  unfold read?
  rw [h]
  cases cells with
  | nil => contradiction
  | cons cell cells => rfl

theorem read?_body {row : Row} (h : row.Fits) : read? row.body = some row := by
  cases row with
  | mark => rfl
  | line address data =>
    obtain ⟨haddress, hdata⟩ := h
    have hbar : '|' ∉ beforeBar address data := not_mem_beforeBar (by decide) (by decide) address data
    have hwords : words ((body (.line address data)).takeWhile (· ≠ '|'))
        = (Text.hex address 8).toList :: data.map fun b => (Text.hex b.toNat 2).toList := by
      rw [body, List.append_assoc, takeWhile_bar hbar]
      simp [words_beforeBar]
    have hcells : (data.map fun b => (Text.hex b.toNat 2).toList) ≠ [] :=
      fun hnil => hdata (List.map_eq_nil_iff.mp hnil)
    have hbytes : (data.map UInt8.toNat).map UInt8.ofNat = data := by
      rw [List.map_map]
      exact List.map_id'' (fun b => UInt8.ofNat_toNat) data
    rw [read?_of_words hwords hcells, Text.parseHex_hex haddress, mapM_cells]
    simp only [Except.toOption, Option.bind_eq_bind, Option.bind_some, hbytes]
    rfl
  | stop address =>
    have hbar : '|' ∉ (Text.hex address 8).toList := Text.not_mem_hex (by decide) address 8
    have hmark : (Text.hex address 8).toList ≠ ['*'] := by
      intro heq
      have hstar : '*' ∉ (Text.hex address 8).toList := Text.not_mem_hex (by decide) address 8
      rw [heq] at hstar
      simp at hstar
    have hwords : words ((body (.stop address)).takeWhile (· ≠ '|')) = [(Text.hex address 8).toList] := by
      rw [body, ← List.append_nil (String.toList _), takeWhile_bar hbar, List.takeWhile_nil, List.append_nil]
      exact words_of_not_mem (Text.hex_ne_nil address 8) (Text.not_mem_hex (by decide) address 8)
    unfold read?
    rw [hwords]
    simp only [if_neg hmark]
    rw [Text.parseHex_hex h]
    rfl

end Row

theorem readRows?_join {rows : List Row} (h : ∀ row ∈ rows, row.Fits)
    : readRows? (String.join (rows.map Row.text)) = some rows := by
  unfold readRows?
  induction rows with
  | nil => rfl
  | cons row rows ih =>
    obtain ⟨hrow, hrows⟩ := List.forall_mem_cons.mp h
    rw [List.map_cons, String.join_cons, String.toList_append, Row.toList_text, List.append_assoc]
    rw [List.singleton_append, Text.splitAtEach_append row.newline_not_mem_body]
    rw [List.dropLast_cons_of_ne_nil (Text.splitAtEach_ne_nil _ _), List.mapM_cons, ih hrows]
    rw [Row.read?_body hrow]
    rfl

theorem rows_of_repeats {d : Hexdump} {data : Bytes} (h : d.Repeats data) (rest : List Bytes)
    : d.rows (data :: rest)
        =
      (if d.squeezed then [] else [.mark]) ++ rows ⟨d.address + lineLength, some data, true⟩ rest := by
  rw [rows, if_pos h, feedLine_of_repeats h]
  split <;> rfl

theorem rows_of_not_repeats {d : Hexdump} {data : Bytes} (h : ¬ d.Repeats data) (rest : List Bytes)
    : d.rows (data :: rest)
        =
      .line d.address data
        :: rows ⟨d.address + data.length, if data.length = lineLength then some data else none, false⟩ rest := by
  rw [rows, if_neg h, feedLine_of_not_repeats h]

theorem expand?_line (address : Nat) (data : Bytes) {rest : List Row} (h : rest.head? ≠ some .mark)
    : expand? (.line address data :: rest)
        =
      (expand? rest).map fun (_, others) => (address, data ++ others) := by
  rw [expand?]
  . cases expand? rest <;> rfl
  . intro others heq
    rw [heq] at h
    exact h rfl

theorem expand?_mark (address : Nat) (data : Bytes) (rest : List Row)
    : expand? (.line address data :: .mark :: rest)
        =
      (expand? rest).map fun (next, others) =>
        (address, data ++ copies ((next - (address + data.length)) / data.length) data ++ others) := by
  rw [expand?]
  cases expand? rest <;> rfl

/--
Of the lines that are yet to come, the first `count` ones repeat the last line. They show as one mark, unless
there is one already, and what is behind them stands for itself.
-/
structure Continues (d : Hexdump) (lines : List Bytes) (count : Nat) (rest : List Row) (others : Bytes)
    : Prop where
  rows : d.rows lines = (if d.squeezed ∨ count = 0 then [] else [.mark]) ++ rest
  unmarked : rest.head? ≠ some .mark
  expands : expand? rest = some (d.address + lineLength * count, others)
  full : 0 < count → (d.last.getD []).length = lineLength
  bytes : lines.flatten = copies count (d.last.getD []) ++ others

theorem expand?_shown {d : Hexdump} {data : Bytes} (hnew : ¬ d.Repeats data) {lines : List Bytes}
    {count : Nat} {rest : List Row} {others : Bytes}
    (h : Continues ⟨d.address + data.length, if data.length = lineLength then some data else none, false⟩
      lines count rest others)
    : expand? (d.rows (data :: lines)) = some (d.address, (data :: lines).flatten) := by
  have hbytes := h.bytes
  rw [rows_of_not_repeats hnew, h.rows, List.flatten_cons, hbytes]
  cases count with
  | zero =>
    rw [if_pos (.inr rfl), List.nil_append, expand?_line _ _ h.unmarked, h.expands]
    rfl
  | succ count =>
    have hlength : data.length = lineLength := by
      have hfull := h.full (Nat.succ_pos count)
      split at hfull
      . assumption
      . contradiction
    have hcount : (d.address + data.length + lineLength * (count + 1) - (d.address + data.length)) / data.length
        = count + 1 := by
      rw [Nat.add_sub_cancel_left, hlength]
      exact Nat.mul_div_cancel_left (count + 1) (by decide)
    rw [if_neg (by simp), List.singleton_append, expand?_mark, h.expands, Option.map_some]
    simp only [hcount, if_pos hlength, Option.getD_some, List.append_assoc]

theorem exists_continues (d : Hexdump) (lines : List Bytes)
    : ∃ count rest others, d.Continues lines count rest others := by
  induction lines generalizing d with
  | nil =>
    refine ⟨0, [.stop d.address], [], ?_⟩
    constructor <;> simp [Hexdump.rows, expand?, copies]
  | cons data lines ih =>
    by_cases hrepeats : d.Repeats data
    . obtain ⟨count, rest, others, h⟩ := ih ⟨d.address + lineLength, some data, true⟩
      refine ⟨count + 1, rest, others, ?_, h.unmarked, ?_, ?_, ?_⟩
      . rw [rows_of_repeats hrepeats, h.rows]
        simp
      . rw [h.expands]
        simp only [Nat.mul_add_one, Nat.add_assoc, Nat.add_comm lineLength]
      . intro _
        rw [hrepeats.2]
        exact hrepeats.1
      . have hbytes := h.bytes
        simp only [Option.getD_some] at hbytes
        rw [List.flatten_cons, hbytes, hrepeats.2]
        simp [copies, List.replicate_succ]
    . obtain ⟨count, rest, others, h⟩ :=
        ih ⟨d.address + data.length, if data.length = lineLength then some data else none, false⟩
      refine ⟨0, d.rows (data :: lines), (data :: lines).flatten, ?_, ?_, expand?_shown hrepeats h, ?_, ?_⟩
      . simp
      . rw [rows_of_not_repeats hrepeats]
        simp
      . simp
      . simp [copies]

theorem expand?_rows_start (address : Nat) (lines : List Bytes)
    : expand? ((start address).rows lines) = some (address, lines.flatten) := by
  obtain ⟨count, rest, others, h⟩ := exists_continues (start address) lines
  cases count with
  | zero =>
    have hbytes : lines.flatten = others := h.bytes
    rw [h.rows, if_pos (.inr rfl), List.nil_append, h.expands, hbytes]
    rfl
  | succ count => exact absurd (h.full (Nat.succ_pos count)) (by simp [start, lineLength])

theorem mem_rows_cons {d : Hexdump} {data : Bytes} {lines : List Bytes} {row : Row}
    (h : row ∈ (d.feedLine data).1.rows lines) : row ∈ d.rows (data :: lines) := by
  rw [rows]
  split
  . split
    . exact h
    . exact List.mem_cons_of_mem _ h
  . exact List.mem_cons_of_mem _ h

theorem mem_rows_of_new {d : Hexdump} {lines : List Bytes} {i : Nat} {data : Bytes}
    (hdata : lines[i]? = some data)
    (hnew : data.length ≠ lineLength ∨ (if i = 0 then d.last else lines[i - 1]?) ≠ some data)
    : .line (d.address + (lines.take i).flatten.length) data ∈ d.rows lines := by
  induction i generalizing d lines with
  | zero =>
    cases lines with
    | nil => contradiction
    | cons first lines =>
      obtain rfl : first = data := Option.some.inj hdata
      have hrepeats : ¬ d.Repeats first := fun h => hnew.elim (· h.1) (· h.2)
      rw [rows_of_not_repeats hrepeats]
      exact List.mem_cons_self
  | succ i ih =>
    cases lines with
    | nil => contradiction
    | cons first lines =>
      apply mem_rows_cons
      rw [List.take_succ_cons, List.flatten_cons, List.length_append, ← Nat.add_assoc, ← address_feedLine]
      apply ih hdata
      refine hnew.imp_right fun hprevious => ?_
      cases i with
      | zero =>
        rw [if_pos rfl, last_feedLine]
        split
        . exact hprevious
        . simp
      | succ i => exact hprevious

theorem dump_eq_rows (address : Nat) (data : Bytes)
    : dump address data = String.join (((start address).rows (pages lineLength data)).map Row.text) := by
  apply feedLines_eq_rows

theorem fits_rows {d : Hexdump} {lines : List Bytes} (haddress : d.address + lines.flatten.length < 2 ^ 64)
    (hlines : ∀ line ∈ lines, line ≠ []) : ∀ row ∈ d.rows lines, row.Fits := by
  induction lines generalizing d with
  | nil =>
    intro row hrow
    obtain rfl := List.mem_singleton.mp hrow
    exact haddress
  | cons data lines ih =>
    obtain ⟨hdata, hlines⟩ := List.forall_mem_cons.mp hlines
    rw [List.flatten_cons, List.length_append, ← Nat.add_assoc] at haddress
    have hrest : ∀ row ∈ (d.feedLine data).1.rows lines, row.Fits := by
      apply ih _ hlines
      rw [address_feedLine]
      exact haddress
    rw [rows]
    split
    . split
      . exact hrest
      . exact List.forall_mem_cons.mpr ⟨trivial, hrest⟩
    . refine List.forall_mem_cons.mpr ⟨⟨?_, hdata⟩, hrest⟩
      omega

theorem readRows?_dump {address : Nat} {data : Bytes} (h : address + data.length < 2 ^ 64)
    : readRows? (dump address data) = some ((start address).rows (pages lineLength data)) := by
  rw [dump_eq_rows]
  apply readRows?_join
  apply fits_rows
  . rw [flatten_pages (by decide)]
    exact h
  . intro line hline
    exact ne_nil_of_mem_pages (by decide) hline

theorem read?_dump {address : Nat} {data : Bytes} (h : address + data.length < 2 ^ 64)
    : read? (dump address data) = some (address, data) := by
  unfold read?
  rw [readRows?_dump h]
  change expand? _ = _
  rw [expand?_rows_start, flatten_pages (by decide)]

def lineAt (data : Bytes) (i : Nat) : Bytes :=
  (data.drop (lineLength * i)).take lineLength

/--
A dump tells its start and its bytes, so that no two dumps are the same text. Every line that is not full or
differs from the line before it is shown at its own address.
-/
theorem dump_is_lossless {address : Nat} {data : Bytes} (h : address + data.length < 2 ^ 64)
    : read? (dump address data) = some (address, data)
        ∧
      (∀ other others, other + others.length < 2 ^ 64 → dump other others = dump address data →
        other = address ∧ others = data)
        ∧
      ∃ rows, readRows? (dump address data) = some rows
        ∧
      ∀ i, lineLength * i < data.length →
        (lineAt data i).length ≠ lineLength ∨ i = 0 ∨ lineAt data (i - 1) ≠ lineAt data i →
          .line (address + lineLength * i) (lineAt data i) ∈ rows := by
  refine ⟨read?_dump h, ?_, (start address).rows (pages lineLength data), readRows?_dump h, ?_⟩
  . intro other others hother heq
    have hread : some (other, others) = some (address, data) := by
      rw [← read?_dump hother, heq, read?_dump h]
    exact Prod.mk.inj (Option.some.inj hread)
  . intro i hi hnew
    have hpages (j : Nat) (hj : j ≤ i) : (pages lineLength data)[j]? = some (lineAt data j) := by
      have hle : lineLength * j ≤ lineLength * i := Nat.mul_le_mul_left lineLength hj
      rw [getElem?_pages (by decide), if_pos (by omega)]
      rfl
    have haddress : ((pages lineLength data).take i).flatten.length = lineLength * i := by
      rw [flatten_take_pages (by decide), List.length_take]
      omega
    rw [← haddress]
    apply mem_rows_of_new (hpages i (Nat.le_refl i))
    refine hnew.imp_right fun hnew => ?_
    split
    . simp [start]
    . next hpositive =>
      rw [hpages (i - 1) (Nat.sub_le i 1)]
      exact fun heq => hnew.elim hpositive fun hdiffers => hdiffers (Option.some.inj heq)

/--
Four lines of zeros show as one line and a mark, and two more bytes as a line of their own.
-/
theorem zeros_are_read_back
    : 0 + (List.replicate 64 0 ++ [1, 2] : Bytes).length < 2 ^ 64
        ∧
      dump 0 (List.replicate 64 0 ++ [1, 2])
        =
      "00000000  00 00 00 00 00 00 00 00  00 00 00 00 00 00 00 00  |................|\n"
        ++ "*\n"
        ++ "00000040  01 02                                            |..|\n"
        ++ "00000042\n"
        ∧
      read? (dump 0 (List.replicate 64 0 ++ [1, 2])) = some (0, List.replicate 64 0 ++ [1, 2]) := by
  refine ⟨by decide, by decide +kernel, ?_⟩
  exact (dump_is_lossless (by decide)).1

end Hexdump
end PcieSwitch
