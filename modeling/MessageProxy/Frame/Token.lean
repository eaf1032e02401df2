/-!
Sequence tokens: every request of a client takes the next one, and they wrap after 2^16.
-/

namespace MessageProxy

/-- The source of a client's tokens. -/
structure TokenSource where
  next : UInt16
deriving DecidableEq

namespace TokenSource

/-- The next token and the source without it. -/
def take (source : TokenSource) : UInt16 × TokenSource :=
  (source.next, ⟨source.next + 1⟩)

/-- The next `count` tokens in order, and the source without them. -/
def takeMany (source : TokenSource) : Nat → List UInt16 × TokenSource
  | 0 => ([], source)
  | count + 1 =>
    let (token, rest) := source.take
    let (tokens, rest) := rest.takeMany count
    (token :: tokens, rest)

end TokenSource

end MessageProxy
