import SymbolFootprint.Object.Coff
import SymbolFootprint.Object.Elf
import SymbolFootprint.Object.Foreign
import SymbolFootprint.Object.MachO

/-!
Telling the format of a file by its first bytes, and reading what it shows.
-/

namespace SymbolFootprint

inductive Format where
  | elf (wide : Bool)
  | coff
  | machO (order : ByteOrder)
  | foreign (format : Foreign.Format)
deriving DecidableEq

inductive RecognitionFault where
  | noMagic
  | unsupported
  | unknownMagic
  | elf (fault : Elf.Fault)
  | coff (fault : Coff.Fault)
  | machO (fault : MachO.Fault)
  | foreign (reason : String)
deriving DecidableEq

namespace RecognitionFault

def message : RecognitionFault → String
  | .noMagic => "Could not read file magic"
  | .unsupported => "Unsupported file format"
  | .unknownMagic => "Unknown file magic"
  | .elf fault => fault.message
  | .coff fault => fault.message
  | .machO fault => fault.message
  | .foreign reason => reason

end RecognitionFault

namespace Format

def signatures : List (List UInt8 × Except RecognitionFault Format) :=
  [("!<arch>\n".toUTF8.data.toList, .error .unsupported),
    ("!<thin>\n".toUTF8.data.toList, .error .unsupported),
    ("dyld_v1 ".toUTF8.data.toList, .error .unsupported),
    ([0x7F, 0x45, 0x4C, 0x46, 0x01], .ok (.elf false)),
    ([0x7F, 0x45, 0x4C, 0x46, 0x02], .ok (.elf true)),
    ([0xFE, 0xED, 0xFA, 0xCE], .ok (.foreign (.narrowMachO .big))),
    ([0xCE, 0xFA, 0xED, 0xFE], .ok (.foreign (.narrowMachO .little))),
    ([0xFE, 0xED, 0xFA, 0xCF], .ok (.machO .big)),
    ([0xCF, 0xFA, 0xED, 0xFE], .ok (.machO .little)),
    ([0xCA, 0xFE, 0xBA, 0xBE], .error .unsupported),
    ([0xCA, 0xFE, 0xBA, 0xBF], .error .unsupported),
    ([0x4D, 0x5A], .ok (.foreign .portable)),
    ([0x4C, 0x01], .ok .coff),
    ([0x64, 0x86], .ok .coff),
    ([0x64, 0xAA], .ok .coff),
    ([0xC4, 0x01], .ok .coff),
    ([0x41, 0xA6], .ok .coff),
    ([0x01, 0xDF], .ok (.foreign (.xcoff false))),
    ([0x01, 0xF7], .ok (.foreign (.xcoff true))),
    ([0x00, 0x00, 0xFF, 0xFF, 0x00, 0x00], .error .unsupported),
    ([0x00, 0x00, 0xFF, 0xFF, 0x02, 0x00], .ok (.foreign .bigCoff))]

/-- The format that the first sixteen bytes of a file announce. -/
def ofStart (start : List UInt8) : Except RecognitionFault Format :=
  match signatures.find? fun signature => signature.1.isPrefixOf start with
  | none => .error .unknownMagic
  | some (_, verdict) => verdict

end Format

namespace Contents

/-- What a file shows. Foreign formats are left to the reader. -/
def ofFile (reader : Foreign.Reader) (file : ByteArray) : Except RecognitionFault Contents :=
  match window? file 0 16 with
  | none => .error .noMagic
  | some start => do
    match ← Format.ofStart start with
    | .elf wide => ((Elf.parse file wide).map (·.contents file)).mapError .elf
    | .coff => ((Coff.parse file).map (·.contents file)).mapError .coff
    | .machO order => ((MachO.parse file order).map (·.contents file)).mapError .machO
    | .foreign format => ((reader format file).map Foreign.View.contents).mapError .foreign

end Contents

end SymbolFootprint
