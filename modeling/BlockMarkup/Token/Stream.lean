import BlockMarkup.Token.Basic

/-!
# Token streams

Tokens that are taken one by one from the front.
-/

namespace BlockMarkup

structure TokenStream where
  rest : List Token

namespace TokenStream

def ofList (tokens : List Token) : TokenStream := ⟨tokens⟩

def size (s : TokenStream) : Nat := s.rest.length

def isEmpty (s : TokenStream) : Bool := s.rest.isEmpty

def peek? (s : TokenStream) : Option Token := s.rest.head?

/-- The token in front and the stream after it. An empty stream stays empty. -/
def next (s : TokenStream) : Option Token × TokenStream := (s.rest.head?, ⟨s.rest.tail⟩)

end TokenStream

end BlockMarkup
