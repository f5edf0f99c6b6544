import Mathlib.Data.List.Basic

/-! The `str` operations of Rust's standard library that the gateway's text handling uses,
over the characters of a string: `split` is `List.splitOn`, and `split_once`, `trim` and
`char::is_whitespace` are modelled here. -/

namespace DocumentDBGateway.Rust

/-- `char::is_whitespace`: the Unicode `White_Space` property. -/
def isWhitespace (c : Char) : Bool :=
  let n := c.toNat
  (0x09 ≤ n && n ≤ 0x0D) || n == 0x20 || n == 0x85 || n == 0xA0 || n == 0x1680 ||
    (0x2000 ≤ n && n ≤ 0x200A) || n == 0x2028 || n == 0x2029 || n == 0x202F ||
    n == 0x205F || n == 0x3000

/-- `str::trim`: drops leading and trailing whitespace. -/
def trim (s : List Char) : List Char :=
  ((s.dropWhile isWhitespace).reverse.dropWhile isWhitespace).reverse

/-- `str::split_once` on a `char`: the text before and after the first `sep`. -/
def splitOnce (sep : Char) : List Char → Option (List Char × List Char)
  | [] => none
  | c :: cs => if c = sep then some ([], cs) else (splitOnce sep cs).map fun (k, v) => (c :: k, v)

def AllWhitespace (s : List Char) : Prop := ∀ c ∈ s, isWhitespace c = true

def NoEdgeWhitespace (s : List Char) : Prop :=
  (∀ c ∈ s.head?, isWhitespace c = false) ∧ ∀ c ∈ s.getLast?, isWhitespace c = false

instance (s : List Char) : Decidable (AllWhitespace s) := inferInstanceAs (Decidable (∀ c ∈ s, _))

instance (s : List Char) : Decidable (NoEdgeWhitespace s) := inferInstanceAs (Decidable (_ ∧ _))

theorem isWhitespace_comma : isWhitespace ',' = false := by decide

theorem isWhitespace_eq : isWhitespace '=' = false := by decide

theorem not_mem_of_allWhitespace {s : List Char} {c : Char} (blank : AllWhitespace s)
    (visible : isWhitespace c = false) : c ∉ s := fun present => by
  simp [blank c present] at visible

theorem dropWhile_of_head {p : Char → Bool} {s : List Char} (head : ∀ c ∈ s.head?, p c = false) :
    s.dropWhile p = s := by
  cases s with
  | nil => rfl
  | cons c cs => exact List.dropWhile_cons_of_neg (by simp [head c rfl])

theorem dropWhile_whitespace_append {pad s : List Char} (blank : AllWhitespace pad) :
    (pad ++ s).dropWhile isWhitespace = s.dropWhile isWhitespace := by
  induction pad with
  | nil => rfl
  | cons c cs ih =>
      rw [List.cons_append, List.dropWhile_cons_of_pos (blank c (by simp))]
      exact ih fun d present => blank d (List.mem_cons_of_mem c present)

theorem trim_padded {before word after : List Char} (left : AllWhitespace before)
    (right : AllWhitespace after) (edge : NoEdgeWhitespace word) :
    trim (before ++ word ++ after) = word := by
  rcases word.eq_nil_or_concat with rfl | ⟨front, last, rfl⟩
  · have gone : (before ++ after).dropWhile isWhitespace = [] :=
      List.dropWhile_eq_nil_iff.mpr fun c present => by
        rcases List.mem_append.mp present with inside | inside
        · exact left c inside
        · exact right c inside
    simp [trim, gone]
  · rw [List.concat_eq_append] at edge ⊢
    have headKept : ((front ++ [last]) ++ after).dropWhile isWhitespace = (front ++ [last]) ++ after :=
      dropWhile_of_head fun c present => edge.1 c (by cases front <;> simp_all)
    have tailKept : (front ++ [last]).reverse.dropWhile isWhitespace = (front ++ [last]).reverse :=
      dropWhile_of_head fun c present => edge.2 c (by simp_all)
    rw [trim, List.append_assoc before, dropWhile_whitespace_append left, headKept,
      List.reverse_append, dropWhile_whitespace_append (by simpa [AllWhitespace] using right),
      tailKept, List.reverse_reverse]

theorem trim_padding (s : List Char) :
    ∃ before after, AllWhitespace before ∧ AllWhitespace after ∧ before ++ trim s ++ after = s := by
  refine ⟨s.takeWhile isWhitespace, ((s.dropWhile isWhitespace).reverse.takeWhile isWhitespace).reverse,
    fun c present => List.mem_takeWhile_imp present,
    fun c present => List.mem_takeWhile_imp (List.mem_reverse.mp present), ?_⟩
  rw [trim, List.append_assoc, ← List.reverse_append, List.takeWhile_append_dropWhile,
    List.reverse_reverse, List.takeWhile_append_dropWhile]

theorem mem_of_mem_trim {c : Char} {s : List Char} (present : c ∈ trim s) : c ∈ s := by
  have inner := (List.dropWhile_suffix isWhitespace).subset (List.mem_reverse.mp present)
  exact (List.dropWhile_suffix isWhitespace).subset (List.mem_reverse.mp inner)

theorem noEdgeWhitespace_trim (s : List Char) : NoEdgeWhitespace (trim s) := by
  obtain ⟨front, split⟩ := List.dropWhile_suffix isWhitespace (l := (s.dropWhile isWhitespace).reverse)
  constructor
  · intro c first
    have head : (s.dropWhile isWhitespace).head? = some c := by
      simp only [trim, List.head?_reverse] at first
      rw [← List.getLast?_reverse, ← split, List.getLast?_append, Option.mem_def.mp first]
      rfl
    simpa [head] using List.head?_dropWhile_not isWhitespace s
  · intro c last
    have head : ((s.dropWhile isWhitespace).reverse.dropWhile isWhitespace).head? = some c := by
      simpa [trim] using last
    simpa [head] using List.head?_dropWhile_not isWhitespace (s.dropWhile isWhitespace).reverse

theorem splitOnce_of_not_mem {sep : Char} {s : List Char} (absent : sep ∉ s) :
    splitOnce sep s = none := by
  induction s with
  | nil => rfl
  | cons c cs ih =>
      simp only [List.mem_cons, not_or] at absent
      simp [splitOnce, Ne.symm absent.1, ih absent.2]

theorem splitOnce_append {sep : Char} {key : List Char} (value : List Char) (absent : sep ∉ key) :
    splitOnce sep (key ++ sep :: value) = some (key, value) := by
  induction key with
  | nil => simp [splitOnce]
  | cons c cs ih =>
      simp only [List.mem_cons, not_or] at absent
      simp [splitOnce, Ne.symm absent.1, ih absent.2]

theorem splitOnce_eq_some {sep : Char} {s key value : List Char}
    (split : splitOnce sep s = some (key, value)) : sep ∉ key ∧ s = key ++ sep :: value := by
  induction s generalizing key with
  | nil => cases split
  | cons c cs ih =>
    unfold splitOnce at split
    split_ifs at split with found
    · cases split
      simp [found]
    · obtain ⟨⟨k, v⟩, rest, pair⟩ := Option.map_eq_some'.mp split
      cases pair
      obtain ⟨absent, rfl⟩ := ih rest
      simp [absent, Ne.symm found]

theorem not_mem_of_splitOnce_eq_none {sep : Char} {s : List Char} (missing : splitOnce sep s = none) :
    sep ∉ s := by
  induction s with
  | nil => simp
  | cons c cs ih =>
    unfold splitOnce at missing
    split_ifs at missing with found
    simp only [Option.map_eq_none'] at missing
    simp [Ne.symm found, ih missing]

theorem not_mem_of_mem_splitOnP {p : Char → Bool} :
    ∀ {s piece : List Char}, piece ∈ s.splitOnP p → ∀ c ∈ piece, p c = false
  | [], piece, present => by simp_all [List.splitOnP_nil]
  | x :: xs, piece, present => by
    rw [List.splitOnP_cons] at present
    split_ifs at present with separator
    · rcases List.mem_cons.mp present with rfl | later
      · simp
      · exact not_mem_of_mem_splitOnP later
    · obtain ⟨first, rest, pieces⟩ := List.exists_cons_of_ne_nil (List.splitOnP_ne_nil p xs)
      rw [pieces, List.modifyHead_cons] at present
      rcases List.mem_cons.mp present with rfl | later
      · rintro c (_ | ⟨_, inner⟩)
        · simpa using separator
        · exact not_mem_of_mem_splitOnP (pieces ▸ List.mem_cons_self _ _) c inner
      · exact not_mem_of_mem_splitOnP (pieces ▸ List.mem_cons_of_mem _ later)

theorem not_mem_of_mem_splitOn {sep : Char} {s piece : List Char} (present : piece ∈ s.splitOn sep) :
    sep ∉ piece := fun inside => by
  simpa using not_mem_of_mem_splitOnP present sep inside

end DocumentDBGateway.Rust
