/-!
# Bytes

The payload of every request, response, file and digest is a list of bytes.
-/

namespace Refetch

abbrev Bytes := List UInt8

end Refetch
