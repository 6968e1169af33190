/-! The UTF-8 form of a text. -/
namespace Waymark
namespace Text

def bytes (cs : List Char) : List UInt8 :=
  cs.flatMap String.utf8EncodeChar

end Text
end Waymark
