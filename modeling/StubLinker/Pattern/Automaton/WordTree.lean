import StubLinker.Pattern.Automaton.Basic

namespace StubLinker.Automaton

/-- Words in order, cut behind each that has come to its end. A word that ends again where nothing
follows is none. -/
def cutWords : (done : List (List (List Nat))) → (last : List (List Nat)) → List (List Nat) →
    List (List (List Nat))
  | done, last, [] => (last.reverse :: done).reverse
  | done, last, [] :: words =>
    if !done.isEmpty && done.all List.isEmpty && last.isEmpty then cutWords done last words
    else cutWords (last.reverse :: done) [] words
  | done, last, word :: words => cutWords done (word :: last) words

def tailsBehind (b : Nat) (words : List (List Nat)) : List (List Nat) :=
  (words.filter fun w => w.head? = some b).map List.tail

/-- The states and links for the rest of words: one for each cut, which leads on for the bytes that
words go on with, and one that branches to them. Where all words have ended there is none. Words get
shorter, so `fuel` need not exceed the length of the longest. -/
def wordStates : (fuel : Nat) → List (List Nat) → Size
  | 0, _ => {}
  | fuel + 1, words =>
    if words.all List.isEmpty then {}
    else
      let cuts := cutWords [] [] words
      let inner := cuts.filter fun c => !c.isEmpty
      inner.foldl
        (fun s c =>
          let bytes := (c.filterMap List.head?).eraseDups
          let own : Size :=
            ⟨s.states + 1, s.links + if bytes.length = 1 then 0 else 2 * bytes.length⟩
          bytes.foldl
            (fun s b =>
              let t := wordStates fuel (tailsBehind b c)
              ⟨s.states + t.states, s.links + t.links⟩) own)
        ⟨1, inner.length + (cuts.length - 1)⟩

def Size.wordTree (s : Size) (words : List (List Nat)) : Option Built :=
  let tree := wordStates ((words.map List.length).foldl max 0 + 1) words
  (s.grow (tree.states + 1) tree.links).map ({ size := · })

end StubLinker.Automaton
