import SignOn.ProxyChain
import SignOn.Proofs.Text.Cutting

/-
This file shows which chains of proxies a text allows.
-/

namespace SignOn

open SignOn.Text

namespace ProxyPolicy

/-- A policy that trusts only the chains that a text allows. -/
def allowing (text : String) : ProxyPolicy := ⟨false, AllowedChains.read text⟩

/-- A policy that does not accept any chain accepts the empty one and the allowed ones. -/
theorem authorizes_iff_of_strict (policy : ProxyPolicy) (strict : policy.acceptsAny = false)
    (chain : ProxyChain) :
    policy.authorizes chain = true ↔ chain = [] ∨ chain ∈ policy.allowed.chains := by
  rw [authorizes, strict, AllowedChains.contains, Bool.or_false, Bool.or_eq_true,
    List.isEmpty_iff, List.any_beq']
  simp

end ProxyPolicy

namespace AllowedChains

/--
A piece of a text holds the proxies of a chain in order, with blanks between any two of them and
perhaps around them all.
-/
inductive Holds : List Char → ProxyChain → Prop
  | one {before after : List Char} (blankBefore : ∀ blank ∈ before, isBlank blank = true)
      (proxy : String) (blankAfter : ∀ blank ∈ after, isBlank blank = true) :
      Holds (before ++ proxy.toList ++ after) [proxy]
  | more {before between rest : List Char} {others : ProxyChain}
      (blankBefore : ∀ blank ∈ before, isBlank blank = true) (proxy : String)
      (separated : between ≠ []) (blankBetween : ∀ blank ∈ between, isBlank blank = true)
      (holds : Holds rest others) :
      Holds (before ++ proxy.toList ++ (between ++ rest)) (proxy :: others)

/-- A text spells a chain of words when one of its pieces holds it. -/
structure Spells (text : String) (chain : ProxyChain) : Prop where
  words : ∀ proxy ∈ chain, IsWord proxy
  held : ∃ piece, IsPiece isChainSeparator text.toList piece ∧ Holds piece chain

/-- No piece holds a chain without proxies. -/
theorem Holds.ne_nil {piece : List Char} {chain : ProxyChain} (holds : Holds piece chain) :
    chain ≠ [] := by
  cases holds with
  | one => simp
  | more => simp

/-- The words of a piece that holds a chain of words are those of the chain. -/
theorem Holds.words_eq {piece : List Char} {chain : ProxyChain} (holds : Holds piece chain)
    (areWords : ∀ proxy ∈ chain, IsWord proxy) : words piece = chain := by
  induction holds with
  | one blankBefore proxy blankAfter =>
      have isWord := areWords proxy List.mem_cons_self
      rw [words_of_first blankBefore isWord
        (fun next isNext => blankAfter next (List.mem_of_mem_head? isNext)),
        words_of_blanks blankAfter]
  | @more before between rest others blankBefore proxy separated blankBetween holds inductionHypothesis =>
      obtain ⟨isWord, areWords⟩ := List.forall_mem_cons.1 areWords
      have ends : ∀ next ∈ (between ++ rest).head?, isBlank next = true := by
        intro next isNext
        rw [List.head?_append_of_ne_nil _ separated] at isNext
        exact blankBetween next (List.mem_of_mem_head? isNext)
      rw [words_of_first blankBefore isWord ends, words_blanks_append blankBetween,
        inductionHypothesis areWords]

/-- A piece holds its words. -/
theorem holds_words (piece : List Char) (spoken : words piece ≠ []) : Holds piece (words piece) := by
  induction length : piece.length using Nat.strongRecOn generalizing piece with
  | ind size inductionHypothesis =>
      rcases blank_or_word piece with blank | ⟨before, word, after, rfl, blanks, isWord, ends⟩
      · exact absurd (words_of_blanks blank) spoken
      rw [words_of_first blanks isWord ends]
      by_cases last : words after = []
      · rw [last]
        exact .one blanks word ((words_eq_nil_iff after).1 last)
      cases after with
      | nil => exact absurd rfl last
      | cons next others =>
          have blank := ends next rfl
          rw [words_cons_blank blank] at last ⊢
          have shorter : others.length < size := by
            simp only [← length, List.length_append, List.length_cons]
            omega
          exact .more blanks word (List.cons_ne_nil next [])
            (fun character member => List.mem_singleton.1 member ▸ blank)
            (inductionHypothesis _ shorter others last rfl)

/-- A text spells the words of its pieces, where there are any. -/
theorem spells_iff (text : String) (chain : ProxyChain) :
    Spells text chain ↔
      chain ≠ [] ∧ ∃ piece, IsPiece isChainSeparator text.toList piece ∧ words piece = chain := by
  constructor
  · rintro ⟨areWords, piece, isPiece, holds⟩
    exact ⟨holds.ne_nil, piece, isPiece, holds.words_eq areWords⟩
  · rintro ⟨nonempty, piece, isPiece, rfl⟩
    exact ⟨fun proxy => IsWord.of_mem_words, piece, isPiece, holds_words piece nonempty⟩

/-- The chains that are read from a text are those that it spells. -/
theorem mem_read_iff (text : String) (chain : ProxyChain) :
    chain ∈ (read text).chains ↔ Spells text chain := by
  rw [spells_iff]
  simp only [read, List.mem_filter, List.mem_map, mem_pieces_iff, Bool.not_eq_true',
    List.isEmpty_eq_false_iff]
  exact and_comm

/-- Only pieces that are not blank count for what a text spells. -/
theorem spells_congr {text other : String}
    (same : ∀ piece, piece.all isBlank = false →
      (IsPiece isChainSeparator text.toList piece ↔
        IsPiece isChainSeparator other.toList piece)) (chain : ProxyChain) :
    Spells text chain ↔ Spells other chain := by
  rw [spells_iff, spells_iff]
  refine and_congr_right fun nonempty => exists_congr fun piece => and_congr_left ?_
  rintro rfl
  refine same piece (Bool.eq_false_iff.2 fun blank => nonempty ?_)
  exact words_of_blanks (List.all_eq_true.1 blank)

/-- The chains that a text allows, written with one separator between them and one gap between proxies. -/
def written (separator gap : Char) (allowed : AllowedChains) : String :=
  String.ofList ([separator].intercalate
    (allowed.chains.map fun chain => [gap].intercalate (chain.map String.toList)))

/-- Chains can be written when each has a proxy, and proxies are words without semicolons. -/
structure IsWritable (allowed : AllowedChains) : Prop where
  nonempty : ∀ chain ∈ allowed.chains, chain ≠ []
  words : ∀ chain ∈ allowed.chains, ∀ proxy ∈ chain, IsWord proxy
  unbroken : ∀ chain ∈ allowed.chains, ∀ proxy ∈ chain, ';' ∉ proxy.toList

instance (allowed : AllowedChains) : Decidable allowed.IsWritable :=
  decidable_of_iff (∀ chain ∈ allowed.chains,
      chain ≠ [] ∧ ∀ proxy ∈ chain, IsWord proxy ∧ ';' ∉ proxy.toList)
    ⟨fun plain => ⟨fun chain member => (plain chain member).1,
      fun chain member proxy inChain => ((plain chain member).2 proxy inChain).1,
      fun chain member proxy inChain => ((plain chain member).2 proxy inChain).2⟩,
    fun writable chain member => ⟨writable.nonempty chain member, fun proxy inChain =>
      ⟨writable.words chain member proxy inChain, writable.unbroken chain member proxy inChain⟩⟩⟩

/-- A separator of chains that is no semicolon is a blank. -/
theorem isChainSeparator_of_isWord {proxy : String} (isWord : IsWord proxy)
    (unbroken : ';' ∉ proxy.toList) :
    ∀ character ∈ proxy.toList, isChainSeparator character = false := by
  intro character member
  rw [isChainSeparator, Bool.or_eq_false_iff, beq_eq_false_iff_ne, beq_eq_false_iff_ne]
  constructor
  · rintro rfl
    exact absurd (isWord.unbroken '\n' member) (by decide)
  · rintro rfl
    exact unbroken member

/-- Chains that can be written are read back. -/
theorem read_written {allowed : AllowedChains} (writable : allowed.IsWritable)
    {separator gap : Char} (separates : isChainSeparator separator = true)
    (blank : isBlank gap = true) (inside : isChainSeparator gap = false) :
    read (allowed.written separator gap) = allowed := by
  obtain ⟨chains⟩ := allowed
  obtain ⟨nonempty, areWords, unbroken⟩ := writable
  change ∀ chain ∈ chains, _ at nonempty areWords unbroken
  have cut : (pieces isChainSeparator (written separator gap ⟨chains⟩).toList).map words =
      if chains = [] then [[]] else chains := by
    rw [written, String.toList_ofList]
    split
    · rename_i none
      rw [none]
      rfl
    · rename_i some
      rw [pieces_intercalate separates (by simpa using some), List.map_map]
      · refine (List.map_congr_left fun chain member => ?_).trans (List.map_id chains)
        exact words_intercalate blank (areWords chain member)
      · intro piece member
        obtain ⟨chain, among, rfl⟩ := List.mem_map.1 member
        refine forall_mem_intercalate ?_ _ ?_
        · simpa using inside
        · intro part partMember
          obtain ⟨proxy, inChain, rfl⟩ := List.mem_map.1 partMember
          exact isChainSeparator_of_isWord (areWords chain among proxy inChain)
            (unbroken chain among proxy inChain)
  rw [read, cut]
  congr 1
  split
  · rename_i none
    rw [none]
    rfl
  · refine List.filter_eq_self.2 fun chain member => ?_
    simpa using nonempty chain member

end AllowedChains

namespace ProxyPolicy

open AllowedChains

/-- A policy that trusts only what a text spells trusts exactly that, besides tickets that came directly. -/
theorem allowing_authorizes_iff (text : String) {chain : ProxyChain} (nonempty : chain ≠ []) :
    (allowing text).authorizes chain = true ↔ Spells text chain := by
  rw [authorizes_iff_of_strict _ rfl, or_iff_right nonempty]
  exact mem_read_iff text chain

/-- Proxies are expected when some piece of the text is not blank. -/
theorem allowing_expectsProxies_iff (text : String) :
    (allowing text).expectsProxies = true ↔
      ∃ piece, IsPiece isChainSeparator text.toList piece ∧ piece.all isBlank = false := by
  have expects : (allowing text).expectsProxies = true ↔ ∃ chain, Spells text chain := by
    rw [expectsProxies, allowing, AllowedChains.isEmpty, Bool.false_or, Bool.not_eq_true',
      List.isEmpty_eq_false_iff_exists_mem]
    exact exists_congr fun chain => mem_read_iff text chain
  rw [expects]
  simp only [spells_iff]
  constructor
  · rintro ⟨chain, nonempty, piece, isPiece, rfl⟩
    refine ⟨piece, isPiece, Bool.eq_false_iff.2 fun blank => nonempty ?_⟩
    exact words_of_blanks (List.all_eq_true.1 blank)
  · rintro ⟨piece, isPiece, spoken⟩
    refine ⟨words piece, fun none => ?_, piece, isPiece, rfl⟩
    rw [List.all_eq_true.2 ((words_eq_nil_iff piece).1 none)] at spoken
    cases spoken

/-- Texts that spell the same chains are policies with the same decisions. -/
theorem allowing_authorizes_congr {text other : String}
    (same : ∀ chain, Spells text chain ↔ Spells other chain) (chain : ProxyChain) :
    (allowing text).authorizes chain = (allowing other).authorizes chain := by
  rw [Bool.eq_iff_iff, authorizes_iff_of_strict _ rfl, authorizes_iff_of_strict _ rfl]
  exact or_congr_right (((mem_read_iff text chain).trans (same chain)).trans
    (mem_read_iff other chain).symm)

/--
A text allows just the chains of words that it spells, in whatever order and however often it spells
them, and chains that are written come back from their text.
-/
theorem allowing_trusts_spelled (text : String) :
    (∀ chain, chain ≠ [] → ((allowing text).authorizes chain = true ↔ Spells text chain)) ∧
    (∀ spelled chain, Spells text spelled → chain ≠ [] →
      chain <+: spelled ∨ spelled <+: chain ∨ chain.Perm spelled → ¬ Spells text chain →
      (allowing text).authorizes chain = false) ∧
    (∀ other, (∀ chain, Spells text chain ↔ Spells other chain) →
      ∀ chain, (allowing text).authorizes chain = (allowing other).authorizes chain) ∧
    (∀ other, (∀ piece, piece.all isBlank = false →
        (IsPiece isChainSeparator text.toList piece ↔
          IsPiece isChainSeparator other.toList piece)) →
      ∀ chain, (allowing text).authorizes chain = (allowing other).authorizes chain) ∧
    ((allowing text).expectsProxies = true ↔
      ∃ piece, IsPiece isChainSeparator text.toList piece ∧ piece.all isBlank = false) ∧
    (∀ allowed, AllowedChains.IsWritable allowed → ∀ separator gap,
      isChainSeparator separator = true → isBlank gap = true → isChainSeparator gap = false →
      AllowedChains.read (allowed.written separator gap) = allowed) := by
  refine ⟨fun chain nonempty => allowing_authorizes_iff text nonempty, ?unspelled,
    fun other same => allowing_authorizes_congr same, ?pieces, allowing_expectsProxies_iff text, ?written⟩
  case unspelled =>
    intro spelled chain _ nonempty _ unspelled
    rw [Bool.eq_false_iff, ne_eq, allowing_authorizes_iff text nonempty]
    exact unspelled
  case pieces =>
    intro other same
    exact allowing_authorizes_congr (spells_congr same)
  case written =>
    intro allowed writable separator gap separates blank inside
    exact read_written writable separates blank inside

/-- A piece can hold a proxy with a blank in it, which no text allows. -/
theorem proxy_with_blank_is_refused :
    ¬ ((allowing "a b").authorizes ["a b"] = true ↔
      ∃ piece, IsPiece isChainSeparator "a b".toList piece ∧ Holds piece ["a b"]) := by
  have refused : (allowing "a b").authorizes ["a b"] = false := by decide
  have isPiece : IsPiece isChainSeparator "a b".toList ['a', ' ', 'b'] :=
    ⟨by simp [isChainSeparator], [], [], by decide, nofun, nofun⟩
  have holds : Holds ['a', ' ', 'b'] ["a b"] := @Holds.one [] [] nofun "a b" nofun
  intro same
  rw [same.2 ⟨_, isPiece, holds⟩] at refused
  cases refused

end ProxyPolicy

end SignOn
