import Mathlib.Data.List.Basic
import Mathlib.Data.List.Induction
import PaddleLink.CommandLine

/-!
Command lines in groups. A word with the value that it asks for is a group, whatever the value looks like. The last
group of each kind counts, so the kinds may be mixed in any order.
-/

namespace PaddleLink

def groupWords : List String :=
  ["local", "host", "join", "watch", "--config", "--key-script", "--max-frames"]

inductive Group where
  | start (s : Start)
  | config (path : String)
  | keyScript (path : String)
  | maxFrames (value : String)
  | other (word : String) (h : word ∉ groupWords)

inductive Group.Kind where
  | start
  | config
  | keyScript
  | maxFrames
  | other
  deriving DecidableEq, Repr

namespace Group

def words : Group → List String
  | .start s => s.words
  | .config path => ["--config", path]
  | .keyScript path => ["--key-script", path]
  | .maxFrames value => ["--max-frames", value]
  | .other word _ => [word]

def kind : Group → Kind
  | .start _ => .start
  | .config _ => .config
  | .keyScript _ => .keyScript
  | .maxFrames _ => .maxFrames
  | .other _ _ => .other

def start? : Group → Option Start
  | .start s => some s
  | _ => none

def config? : Group → Option String
  | .config path => some path
  | _ => none

def keyScript? : Group → Option String
  | .keyScript path => some path
  | _ => none

def maxFrames? : Group → Option Nat
  | .maxFrames value => (parseNatural value).toOption
  | _ => none

end Group

/-- What the last group says that says anything. -/
def lastOf {α : Type} (part? : Group → Option α) (gs : List Group) : Option α :=
  (gs.filterMap part?).getLast?

def Options.ofGroups (gs : List Group) : Options :=
  ⟨(lastOf Group.start? gs).getD .solo, lastOf Group.config? gs, lastOf Group.keyScript? gs,
    lastOf Group.maxFrames? gs⟩

def Options.with (o : Options) : Group → Options
  | .start s => { o with start := s }
  | .config path => { o with config := some path }
  | .keyScript path => { o with keyScript := some path }
  | .maxFrames value => (o.limit value).1
  | .other _ _ => o

theorem read_words (o : Options) (g : Group) (rest : List String) :
    (o.read (g.words ++ rest)).2 = ((o.with g).read rest).2 := by
  cases g with
  | start s => cases s <;> rfl
  | config path => rfl
  | keyScript path => rfl
  | maxFrames value => rfl
  | other word h =>
    simp only [groupWords, List.mem_cons, List.not_mem_nil, or_false, not_or] at h
    simp [Group.words, Options.with, Options.read, withRecords, h]

theorem read_flatMap_words (o : Options) (gs : List Group) (rest : List String) :
    (o.read (gs.flatMap Group.words ++ rest)).2 = ((gs.foldl Options.with o).read rest).2 := by
  induction gs generalizing o with
  | nil => rfl
  | cons g gs ih => rw [List.flatMap_cons, List.append_assoc, read_words, ih, List.foldl_cons]

theorem lastOf_concat {α : Type} (part? : Group → Option α) (gs : List Group) (g : Group) :
    lastOf part? (gs ++ [g]) = (part? g).or (lastOf part? gs) := by
  unfold lastOf
  cases h : part? g <;> simp [h]

/-- Adding the groups one after the other leaves what the last one of each kind says. -/
theorem foldl_with (gs : List Group) : gs.foldl Options.with .standard = .ofGroups gs := by
  induction gs using List.reverseRecOn with
  | nil => rfl
  | append_singleton gs g ih =>
    rw [List.foldl_concat, ih]
    simp only [Options.ofGroups, lastOf_concat]
    cases g with
    | maxFrames value =>
      simp only [Options.with, Options.limit, Group.maxFrames?]
      cases parseNatural value <;> rfl
    | _ => rfl

theorem readArguments_append (gs : List Group) (rest : List String) :
    (readArguments (gs.flatMap Group.words ++ rest)).2 = ((Options.ofGroups gs).read rest).2 := by
  rw [readArguments, read_flatMap_words, foldl_with]

theorem readArguments_words (gs : List Group) :
    (readArguments (gs.flatMap Group.words)).2 = .ok (.ofGroups gs) := by
  have h := readArguments_append gs []
  rwa [List.append_nil] at h

/-- Only the groups of one kind are looked at for what they say. -/
theorem lastOf_filter {α : Type} {part? : Group → Option α} {kind : Group.Kind}
    (h : ∀ g, g.kind ≠ kind → part? g = none) (gs : List Group) :
    lastOf part? (gs.filter fun g => g.kind = kind) = lastOf part? gs := by
  unfold lastOf
  rw [List.filterMap_filter]
  congr 1
  refine List.filterMap_congr fun g _ => ?_
  by_cases hg : g.kind = kind
  · simp [hg]
  · simp [hg, h g hg]

theorem ofGroups_congr {gs gs' : List Group}
    (h : ∀ kind ≠ .other, (gs.filter fun g => g.kind = kind) = gs'.filter fun g => g.kind = kind) :
    Options.ofGroups gs = Options.ofGroups gs' := by
  have hlast {α : Type} {part? : Group → Option α} (kind : Group.Kind) (hkind : kind ≠ .other)
      (hpart : ∀ g, g.kind ≠ kind → part? g = none) : lastOf part? gs = lastOf part? gs' := by
    rw [← lastOf_filter hpart gs, h kind hkind, lastOf_filter hpart gs']
  have hstart : lastOf Group.start? gs = lastOf Group.start? gs' :=
    hlast .start nofun fun g hg => by cases g <;> first | rfl | exact absurd rfl hg
  have hconfig : lastOf Group.config? gs = lastOf Group.config? gs' :=
    hlast .config nofun fun g hg => by cases g <;> first | rfl | exact absurd rfl hg
  have hscript : lastOf Group.keyScript? gs = lastOf Group.keyScript? gs' :=
    hlast .keyScript nofun fun g hg => by cases g <;> first | rfl | exact absurd rfl hg
  have hframes : lastOf Group.maxFrames? gs = lastOf Group.maxFrames? gs' :=
    hlast .maxFrames nofun fun g hg => by cases g <;> first | rfl | exact absurd rfl hg
  simp only [Options.ofGroups, hstart, hconfig, hscript, hframes]

def numberAfter (n : Nat) (ds : List Char) : Nat :=
  ds.foldl (fun n d => n * 10 + (d.toNat - '0'.toNat)) n

/-- Whether a text is the number `n` of 64 bits: at least one digit, with a plus sign in front or without. -/
def IsNatural64 (s : String) (n : Nat) : Prop :=
  ∃ ds, (s.toList = ds ∨ s.toList = '+' :: ds) ∧ ds ≠ [] ∧ (∀ d ∈ ds, d.isDigit = true) ∧
    numberAfter 0 ds = n ∧ n < UInt64.size

theorem le_numberAfter (n : Nat) (ds : List Char) : n ≤ numberAfter n ds := by
  induction ds generalizing n with
  | nil => exact Nat.le_refl n
  | cons d ds ih =>
    have hrest := ih (n * 10 + (d.toNat - '0'.toNat))
    simp only [numberAfter, List.foldl_cons] at hrest ⊢
    omega

theorem appendDigits_eq_ok_iff {n m : Nat} {ds : List Char} (hn : n < UInt64.size) :
    appendDigits n ds = .ok m ↔ (∀ d ∈ ds, d.isDigit = true) ∧ numberAfter n ds = m ∧ m < UInt64.size := by
  induction ds generalizing n with
  | nil =>
    simp only [appendDigits, Except.ok.injEq, numberAfter, List.foldl_nil]
    constructor
    · rintro rfl
      exact ⟨by simp, rfl, hn⟩
    · exact fun h => h.2.1
  | cons d ds ih =>
    rw [appendDigits, List.forall_mem_cons]
    by_cases hd : d.isDigit = true
    · rw [if_neg (by simp [hd])]
      split
      · rename_i hlarge
        have hle := le_numberAfter (n * 10 + (d.toNat - '0'.toNat)) ds
        simp only [numberAfter, List.foldl_cons] at hle ⊢
        simp only [reduceCtorEq, false_iff, not_and]
        omega
      · rename_i hsmall
        rw [ih (Nat.not_le.mp hsmall)]
        simp [hd, numberAfter]
    · rw [if_pos (by simpa using hd)]
      simp [hd]

theorem parseNatural_eq_ok_iff {s : String} {n : Nat} : parseNatural s = .ok n ↔ IsNatural64 s n := by
  unfold parseNatural IsNatural64
  have hplus : '+'.isDigit = false := by decide
  split
  · rename_i h
    simp [h]
  · rename_i h
    simp [h, hplus]
  · rename_i cs hne h
    rw [h, appendDigits_eq_ok_iff (by decide)]
    constructor
    · rintro ⟨hdigits, hvalue, hn⟩
      exact ⟨cs, .inr rfl, fun hnil => hne (by rw [hnil]), hdigits, hvalue, hn⟩
    · rintro ⟨ds, rfl | hds, -, hdigits, hvalue, hn⟩
      · have hsign := hdigits '+' (List.mem_cons_self ..)
        rw [hplus] at hsign
        cases hsign
      · cases hds
        exact ⟨hdigits, hvalue, hn⟩
  · rename_i hnil _ hsign
    rw [appendDigits_eq_ok_iff (by decide)]
    constructor
    · rintro ⟨hdigits, hvalue, hn⟩
      exact ⟨_, .inl rfl, hnil, hdigits, hvalue, hn⟩
    · rintro ⟨ds, rfl | hds, -, hdigits, hvalue, hn⟩
      · exact ⟨hdigits, hvalue, hn⟩
      · exact absurd hds (hsign ds)

def valueWords : List String :=
  ["--config", "--key-script", "--max-frames"]

def sessionWords : List String :=
  ["join", "watch"]

/-- Whether a command line is made of groups and at most one word without its value at the end. -/
def IsGrouped (args : List String) : Prop :=
  ∃ (gs : List Group) (tail : List String), args = gs.flatMap Group.words ++ tail ∧
    (tail = [] ∨ ∃ w ∈ valueWords ++ sessionWords, tail = [w])

theorem IsGrouped.cons {rest : List String} (h : IsGrouped rest) (g : Group) : IsGrouped (g.words ++ rest) := by
  obtain ⟨gs, tail, rfl, htail⟩ := h
  exact ⟨g :: gs, tail, by simp, htail⟩

theorem isGrouped_of_tail {tail : List String} (h : tail = [] ∨ ∃ w ∈ valueWords ++ sessionWords, tail = [w]) :
    IsGrouped tail :=
  ⟨[], tail, rfl, h⟩

/-- Every command line can be cut into groups. -/
theorem isGrouped : ∀ args, IsGrouped args
  | [] => isGrouped_of_tail (.inl rfl)
  | [w] => by
    by_cases hw : w ∈ groupWords
    · simp only [groupWords, List.mem_cons, List.not_mem_nil, or_false] at hw
      rcases hw with rfl | rfl | hw
      · exact (isGrouped []).cons (.start .solo)
      · exact (isGrouped []).cons (.start .host)
      · refine isGrouped_of_tail (.inr ⟨w, ?_, rfl⟩)
        rcases hw with rfl | rfl | rfl | rfl | rfl <;> decide
    · exact (isGrouped []).cons (.other w hw)
  | w :: v :: rest => by
    by_cases hw : w ∈ groupWords
    · simp only [groupWords, List.mem_cons, List.not_mem_nil, or_false] at hw
      rcases hw with rfl | rfl | rfl | rfl | rfl | rfl | rfl
      · exact (isGrouped (v :: rest)).cons (.start .solo)
      · exact (isGrouped (v :: rest)).cons (.start .host)
      · exact (isGrouped rest).cons (.start (.join ⟨v⟩))
      · exact (isGrouped rest).cons (.start (.watch ⟨v⟩))
      · exact (isGrouped rest).cons (.config v)
      · exact (isGrouped rest).cons (.keyScript v)
      · exact (isGrouped rest).cons (.maxFrames v)
    · exact (isGrouped (v :: rest)).cons (.other w hw)

/-- A command line is read group by group. Whatever the values look like, the last group of each kind counts, a frame
limit that is no number and a word that means nothing count for nothing, and so the groups of different kinds may be
put in any other order. A last option without its value changes nothing, a last command without its session fails, and
there are no other command lines. -/
theorem read_in_groups :
    (∀ gs : List Group, (readArguments (gs.flatMap Group.words)).2 = .ok (.ofGroups gs)) ∧
    (∀ value n, Group.maxFrames? (.maxFrames value) = some n ↔ IsNatural64 value n) ∧
    (∀ gs gs' : List Group,
      (∀ kind ≠ .other, (gs.filter fun g => g.kind = kind) = gs'.filter fun g => g.kind = kind) →
      (readArguments (gs.flatMap Group.words)).2 = (readArguments (gs'.flatMap Group.words)).2) ∧
    (∀ gs : List Group, ∀ w ∈ valueWords,
      (readArguments (gs.flatMap Group.words ++ [w])).2 = (readArguments (gs.flatMap Group.words)).2) ∧
    (∀ gs : List Group, ∀ w ∈ sessionWords,
      (readArguments (gs.flatMap Group.words ++ [w])).2 = .error ⟨w⟩) ∧
    ∀ args, IsGrouped args := by
  refine ⟨readArguments_words, ?_, ?_, ?_, ?_, isGrouped⟩
  · intro value n
    rw [← parseNatural_eq_ok_iff, Group.maxFrames?]
    cases parseNatural value <;> simp [Except.toOption]
  · intro gs gs' h
    rw [readArguments_words, readArguments_words, ofGroups_congr h]
  · intro gs w hw
    rw [readArguments_append, readArguments_words]
    simp only [valueWords, List.mem_cons, List.not_mem_nil, or_false] at hw
    rcases hw with rfl | rfl | rfl <;> rfl
  · intro gs w hw
    rw [readArguments_append]
    simp only [sessionWords, List.mem_cons, List.not_mem_nil, or_false] at hw
    rcases hw with rfl | rfl <;> rfl

/-- Values that look like options, a limit that is no number behind one that is, and the same groups in another
order. -/
theorem read_in_groups_of_lookalikes :
    let gs : List Group := [.maxFrames "007", .start (.join ⟨"--config"⟩), .config "host", .other "x" (by decide),
      .maxFrames "-1"]
    let gs' : List Group := [.config "host", .maxFrames "007", .maxFrames "-1", .start (.join ⟨"--config"⟩)]
    (readArguments ["--max-frames", "007", "join", "--config", "--config", "host", "x", "--max-frames", "-1"]).2 =
      .ok ⟨.join ⟨"--config"⟩, some "host", none, some 7⟩ ∧
    (readArguments (gs.flatMap Group.words)).2 = (readArguments (gs'.flatMap Group.words)).2 ∧
    (readArguments (gs.flatMap Group.words ++ ["--config"])).2 = (readArguments (gs.flatMap Group.words)).2 ∧
    (readArguments (gs.flatMap Group.words ++ ["watch"])).2 = .error ⟨"watch"⟩ := by
  intro gs gs'
  have hkinds : ∀ kind ≠ .other, (gs.filter fun g => g.kind = kind) = gs'.filter fun g => g.kind = kind := by
    intro kind hkind
    cases kind with
    | other => exact absurd rfl hkind
    | _ => rfl
  exact ⟨read_in_groups.1 gs, read_in_groups.2.2.1 gs gs' hkinds, read_in_groups.2.2.2.1 gs "--config" (by decide),
    read_in_groups.2.2.2.2.1 gs "watch" (by decide)⟩

end PaddleLink
