import SellerDirectory.Base64
import SellerDirectory.Digest.Blake2b
import SellerDirectory.Text.Numeral
import SellerDirectory.Text.Utf8

-- What is signed: the window in which a request is valid, in seconds since the start of 1970, and
-- the digest of its body.

namespace SellerDirectory.Signing

open Text

structure Window where
  created : Int
  expires : Int
  deriving DecidableEq

def digestText (body : List UInt8) : List Char :=
  Base64.encode (Digest.Blake2b.digest body)

-- Three lines, the last one without an end.
def messageText (window : Window) (body : List UInt8) : List Char :=
  "(created): ".toList ++ Numeral.ofInt window.created
    ++ "\n(expires): ".toList ++ Numeral.ofInt window.expires
    ++ "\ndigest: BLAKE-512=".toList ++ digestText body

def message (window : Window) (body : List UInt8) : List UInt8 :=
  Utf8.encode (messageText window body)

end SellerDirectory.Signing
