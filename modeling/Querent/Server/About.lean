/-! What a server says of itself. -/
namespace Querent.Server

def service : String := "askdb-server"

def version : String := "0.1.0"

end Querent.Server
