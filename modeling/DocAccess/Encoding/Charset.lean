import DocAccess.Encoding.Utf8
import DocAccess.Encoding.Wide

/-!
# Character sets

A `Charset` names how octets stand for code points. `scan` reads octets with a mark at each
malformed place, and `decodeLossy` puts U+FFFD there. A wide charset without a fixed octet order
takes it from a leading U+FEFF, which it drops, and is little-endian otherwise.
-/
namespace DocAccess

/-- The character sets of JSON. -/
inductive Charset where
  | utf8
  /-- UTF-8 whose leading U+FEFF is dropped. -/
  | utf8Signed
  | utf16 (order : Option Wide.Endian)
  | utf32 (order : Option Wide.Endian)
  deriving DecidableEq, Repr

namespace Charset

/-- The octets that spell U+FEFF in UTF-8. -/
def utf8Signature : List UInt8 := [0xEF, 0xBB, 0xBF]

/-- The code points of the octets, with `none` at each malformed place. -/
def scan (surrogates : Bool) : Charset → List UInt8 → List (Option Nat)
  | .utf8, bs => Utf8.scan surrogates bs
  | .utf8Signed, bs =>
    Utf8.scan surrogates (if utf8Signature.isPrefixOf bs then bs.drop 3 else bs)
  | .utf16 (some order), bs => Wide.scan16 surrogates order bs
  | .utf16 none, bs =>
    match bs with
    | 0xFF :: 0xFE :: rest => Wide.scan16 surrogates .little rest
    | 0xFE :: 0xFF :: rest => Wide.scan16 surrogates .big rest
    | _ => Wide.scan16 surrogates .little bs
  | .utf32 (some order), bs => Wide.scan32 surrogates order bs
  | .utf32 none, bs =>
    match bs with
    | 0xFF :: 0xFE :: 0 :: 0 :: rest => Wide.scan32 surrogates .little rest
    | 0 :: 0 :: 0xFE :: 0xFF :: rest => Wide.scan32 surrogates .big rest
    | _ => Wide.scan32 surrogates .little bs

/-- The code points of well-formed octets, surrogates included. -/
def decode? (c : Charset) (octets : List UInt8) : Option (List Nat) :=
  (c.scan true octets).mapM id

/-- The text of any octets: U+FFFD stands for each malformed place. -/
def decodeLossy (c : Charset) (octets : List UInt8) : List Nat :=
  (c.scan false octets).map (·.getD 0xFFFD)

end Charset
end DocAccess
